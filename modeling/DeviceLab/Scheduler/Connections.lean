import DeviceLab.Config
import DeviceLab.Dialogue
import DeviceLab.Scheduler.Fault

/-! Connections to the database.

A connector opens connections, which are then connected and disconnected. The
manager keeps one connection for everybody: it is opened at the first demand and
kept until the manager disconnects. Connections that were opened apart from it
are nobody's but the opener's. -/
namespace DeviceLab.Scheduler

structure Options where
  /-- There are no read-only connections. -/
  readonly : Bool
  autocommit : Bool
  deriving DecidableEq

def Options.usual : Options := ⟨false, true⟩

/-- An open connection. -/
structure Connection where
  /-- What it leads to, without anything secret. -/
  target : String
  connected : Bool
  deriving DecidableEq

namespace Connection

def connect (c : Connection) : Connection :=
  { c with connected := true }

/-- Only what is connected can be disconnected. -/
def disconnect (c : Connection) : Except Fault Unit × Connection :=
  if c.connected then (.ok (), { c with connected := false })
  else (.error (.inconsistentState (c.target ++ " is not connected")), c)

end Connection

/-! ### Connectors -/

/-- Opens connections to what a section of the configuration describes, and
connects them; either may fail. -/
structure Connector where
  opens : String → Options → Except Fault Connection
  connect : Connection → Except Fault Connection

namespace Connector

/-- Where a connection to the database leads. -/
def describe (d : Database) (o : Options) : String :=
  d.user ++ "@" ++ d.host ++ "/" ++ d.database ++
    (if d.readonly && !o.readonly then " (readonly)" else "") ++
    (if o.autocommit then " (autocommit)" else "")

/-- Opens connections to the database of a configuration, which needs a host and a name. -/
def openDatabase (d : Database) (name : String) (o : Options) : Except Fault Connection :=
  if name != Database.sectionName then .error (.database name "no such config section")
  else if Text.isBlankText d.host then .error (.database name "host is not set")
  else if Text.isBlankText d.database then .error (.database name "database is not set")
  else .ok ⟨describe d o, false⟩

/-- The connector of a configuration. -/
def ofDatabase (d : Database) : Connector :=
  ⟨openDatabase d, fun c => .ok c.connect⟩

/-- What a connector is asked for. -/
inductive Request where
  /-- Open a connection to what a section describes. -/
  | opens (name : String) (o : Options)
  /-- Connect a connection that is open. -/
  | connect (c : Connection)

/-- The reply is the connection as it is then. -/
def Request.Reply (_ : Request) : Type := Except Fault Connection

/-- The replies of a connector, which remembers nothing. -/
def answer (k : Connector) : (r : Request) → Unit → r.Reply × Unit
  | .opens name o, _ => (k.opens name o, ())
  | .connect c, _ => (k.connect c, ())

end Connector

/-- A conversation with a connector. -/
abbrev Asking := Dialogue Connector.Request Connector.Request.Reply

/-! ### The manager -/

/-- All connections that were opened, by the order of opening, and which of them
the manager keeps. -/
structure Manager where
  options : Options
  connections : List Connection
  kept : Option Nat

namespace Manager

def of (options : Options) : Manager :=
  ⟨options, [], none⟩

/-- Adds a connection; gives its number. -/
def add (m : Manager) (c : Connection) : Nat × Manager :=
  (m.connections.length, { m with connections := m.connections ++ [c] })

/-- Opens a connection and connects it. -/
def opening (m : Manager) : Asking (Except Fault Nat × Manager) := do
  match ← Dialogue.question (Connector.Request.opens Database.sectionName m.options) with
  | Except.error e => return (.error e, m)
  | Except.ok c =>
    match ← Dialogue.question (Connector.Request.connect c) with
    | Except.error e => return (.error e, m)
    | Except.ok c =>
      let (n, m) := m.add c
      return (.ok n, m)

/-- The connection that is kept, opened if there is none. -/
def getting (m : Manager) : Asking (Except Fault Nat × Manager) :=
  match m.kept with
  | some n => return (.ok n, m)
  | none => do
    match ← m.opening with
    | (.ok n, m) => return (.ok n, { m with kept := some n })
    | (.error e, m) => return (.error e, m)

/-- Opens a connection by the connector. -/
def openConnection (k : Connector) (m : Manager) : Except Fault Nat × Manager :=
  (m.opening.run k.answer ()).1

/-- The connection that is kept, opened by the connector if there is none. -/
def getConnection (k : Connector) (m : Manager) : Except Fault Nat × Manager :=
  (m.getting.run k.answer ()).1

/-- Connects one of the connections, or disconnects it. -/
def onConnection (n : Nat) (f : Connection → Except Fault Unit × Connection) (m : Manager) :
    Option (Except Fault Unit) × Manager :=
  match m.connections[n]? with
  | some c =>
    let (r, c) := f c
    (some r, { m with connections := m.connections.set n c })
  | none => (none, m)

/-- Lets go of the connection that is kept. That never fails. -/
def disconnect (m : Manager) : Manager :=
  match m.kept with
  | some n => { (m.onConnection n Connection.disconnect).2 with kept := none }
  | none => m

end Manager
end DeviceLab.Scheduler
