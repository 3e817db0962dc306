import DeviceLab.Proofs.Dialogue
import DeviceLab.Scheduler.Connections

/-! What becomes of the connections of a manager.

A history is any sequence of calls on a manager, with any replies of the
connector. Whatever the history, the connection that is kept is connected; those
that were given out before a disconnection are not any more, and those that were
opened apart are left alone (`connections_managed`). -/
namespace DeviceLab.Scheduler.Manager
open Dialogue

/-! ### What passes between a manager and its connector -/

abbrev Log := List (Exchange Connector.Request.Reply)

/-- A connection was to be opened. -/
def opened (m : Manager) (r : Except Fault Connection) : Exchange Connector.Request.Reply :=
  ⟨.opens Database.sectionName m.options, r⟩

/-- An open connection was to be connected. -/
def connected (c : Connection) (r : Except Fault Connection) :
    Exchange Connector.Request.Reply :=
  ⟨.connect c, r⟩

/-- To connect a connection fails or does what it should. -/
def Honest (log : Log) : Prop :=
  ∀ c c', connected c (.ok c') ∈ log → c' = c.connect

/-- How often a connection was to be opened. -/
def openings (log : Log) : Nat :=
  log.countP fun x => match x.1 with
    | .opens .. => true
    | .connect _ => false

/-- What is asked to get a new connection. -/
inductive Opens (m : Manager) : Log → Except Fault Connection → Prop where
  | refused (e : Fault) : Opens m [opened m (.error e)] (.error e)
  | unconnected (c : Connection) (e : Fault) :
      Opens m [opened m (.ok c), connected c (.error e)] (.error e)
  | connected (c c' : Connection) :
      Opens m [opened m (.ok c), connected c (.ok c')] (.ok c')

section
variable {m m' : Manager} {log : Log}

theorem Opens.openings_eq {r : Except Fault Connection} (h : Opens m log r) :
    openings log = 1 := by
  cases h <;> rfl

theorem Opens.connected_eq {c : Connection} (h : Opens m log (.ok c)) (honest : Honest log) :
    c.connected = true := by
  cases h with
  | connected d =>
    rw [honest d c (by simp)]
    rfl

/-- The manager with one connection more. -/
def withConnection (m : Manager) (c : Connection) : Manager :=
  { m with connections := m.connections ++ [c] }

/-- The number that the next connection has. -/
def fresh (m : Manager) : Nat :=
  m.connections.length

/-- Opening a connection asks for it once and gives it a number of its own, if it
can be connected. -/
theorem opening_course {r : Except Fault Nat} (h : Course m.opening log (r, m')) :
    (∃ e, Opens m log (.error e) ∧ r = .error e ∧ m' = m) ∨
      ∃ c, Opens m log (.ok c) ∧ r = .ok m.fresh ∧ m' = m.withConnection c := by
  obtain ⟨before, first, rest, rfl, hopen, hrest⟩ := course_bind_iff.mp h
  obtain rfl := course_question_iff.mp hopen
  cases first with
  | error e =>
    obtain ⟨rfl, hend⟩ := course_done_iff.mp hrest
    cases hend
    exact .inl ⟨e, .refused e, rfl, rfl⟩
  | ok c =>
    obtain ⟨before, second, rest, rfl, hconnect, hlast⟩ := course_bind_iff.mp hrest
    obtain rfl := course_question_iff.mp hconnect
    cases second with
    | error e =>
      obtain ⟨rfl, hend⟩ := course_done_iff.mp hlast
      cases hend
      exact .inl ⟨e, .unconnected c e, rfl, rfl⟩
    | ok c' =>
      obtain ⟨rfl, hend⟩ := course_done_iff.mp hlast
      cases hend
      exact .inr ⟨c', .connected c c', rfl, rfl⟩

/-- The connection that is kept is given out as it is. -/
theorem getting_course_of_kept {n : Nat} (hkept : m.kept = some n) {r : Except Fault Nat}
    (h : Course m.getting log (r, m')) : log = [] ∧ r = .ok n ∧ m' = m := by
  rw [getting, hkept] at h
  obtain ⟨rfl, hend⟩ := course_done_iff.mp h
  cases hend
  exact ⟨rfl, rfl, rfl⟩

/-- If none is kept, one is opened and kept; if that fails nothing changes. -/
theorem getting_course_of_none (hkept : m.kept = none) {r : Except Fault Nat}
    (h : Course m.getting log (r, m')) :
    (∃ e, Opens m log (.error e) ∧ r = .error e ∧ m' = m) ∨
      ∃ c, Opens m log (.ok c) ∧ r = .ok m.fresh ∧
        m' = { m.withConnection c with kept := some m.fresh } := by
  rw [getting, hkept] at h
  obtain ⟨before, ⟨first, m₁⟩, rest, rfl, hopening, hrest⟩ := course_bind_iff.mp h
  rcases opening_course hopening with ⟨e, hopens, rfl, rfl⟩ | ⟨c, hopens, rfl, rfl⟩
  · obtain ⟨rfl, hend⟩ := course_done_iff.mp hrest
    cases hend
    rw [List.append_nil]
    exact .inl ⟨e, hopens, rfl, rfl⟩
  · obtain ⟨rfl, hend⟩ := course_done_iff.mp hrest
    cases hend
    rw [List.append_nil]
    exact .inr ⟨c, hopens, rfl, rfl⟩

/-! ### Connections that are connected -/

/-- The connection of this number is connected. -/
def Alive (m : Manager) (n : Nat) : Prop :=
  ∃ c, m.connections[n]? = some c ∧ c.connected = true

/-- The connection of this number is not connected. -/
def Dead (m : Manager) (n : Nat) : Prop :=
  ∃ c, m.connections[n]? = some c ∧ c.connected = false

theorem Alive.lt {n : Nat} (h : m.Alive n) : n < m.fresh := by
  obtain ⟨c, hc, -⟩ := h
  exact (List.getElem?_eq_some_iff.mp hc).1

theorem Dead.lt {n : Nat} (h : m.Dead n) : n < m.fresh := by
  obtain ⟨c, hc, -⟩ := h
  exact (List.getElem?_eq_some_iff.mp hc).1

/-- One more connection changes none of the others. -/
theorem getElem?_withConnection {n : Nat} (hn : n < m.fresh) (c : Connection) :
    (m.withConnection c).connections[n]? = m.connections[n]? :=
  List.getElem?_append_left hn

theorem Alive.withConnection {n : Nat} (h : m.Alive n) (c : Connection) :
    (m.withConnection c).Alive n := by
  unfold Alive
  rw [getElem?_withConnection h.lt]
  exact h

theorem Dead.withConnection {n : Nat} (h : m.Dead n) (c : Connection) :
    (m.withConnection c).Dead n := by
  unfold Dead
  rw [getElem?_withConnection h.lt]
  exact h

theorem alive_fresh {c : Connection} (hc : c.connected = true) :
    (m.withConnection c).Alive m.fresh :=
  ⟨c, by simp [Manager.withConnection, fresh], hc⟩

/-- Letting go of a connection disconnects this one and no other. -/
theorem disconnect_of_kept {n : Nat} (hkept : m.kept = some n) (halive : m.Alive n) :
    m.disconnect.Dead n ∧ m.disconnect.kept = none ∧
      ∀ k, k ≠ n → m.disconnect.connections[k]? = m.connections[k]? := by
  obtain ⟨c, hc, hconnected⟩ := halive
  have hlt : n < m.connections.length := (List.getElem?_eq_some_iff.mp hc).1
  have heq : m.disconnect =
      ⟨m.options, m.connections.set n { c with connected := false }, none⟩ := by
    simp [disconnect, hkept, onConnection, hc, Connection.disconnect, hconnected]
  rw [heq]
  refine ⟨⟨{ c with connected := false }, ?_, rfl⟩, rfl, fun k hk => ?_⟩
  · rw [List.getElem?_set_self hlt]
  · rw [List.getElem?_set_ne (Ne.symm hk)]

theorem kept_disconnect : m.disconnect.kept = none := by
  unfold disconnect
  split
  · rfl
  · assumption

theorem fresh_disconnect : m.disconnect.fresh = m.fresh := by
  unfold disconnect
  split
  · unfold onConnection fresh
    split <;> simp
  · rfl

theorem disconnect_of_none (hkept : m.kept = none) : m.disconnect = m := by
  simp [disconnect, hkept]

end

/-! ### Histories -/

/-- What a manager is called for. -/
inductive Call where
  | get
  | openNew
  | disconnect
  deriving DecidableEq

/-- One call: the manager before, what was asked, the connection that was given
out or the failure, if the call has a result, and the manager after. -/
structure Turn where
  call : Call
  before : Manager
  log : Log
  result : Option (Except Fault Nat)
  after : Manager

/-- The turn went one of the ways it may go. -/
inductive Turn.Taken : Turn → Prop where
  | get {m m' : Manager} {log : Log} {r : Except Fault Nat} :
      Course m.getting log (r, m') → Honest log → Taken ⟨.get, m, log, some r, m'⟩
  | openNew {m m' : Manager} {log : Log} {r : Except Fault Nat} :
      Course m.opening log (r, m') → Honest log → Taken ⟨.openNew, m, log, some r, m'⟩
  | disconnect (m : Manager) : Taken ⟨.disconnect, m, [], none, m.disconnect⟩

/-- A sequence of calls, from one manager to another. -/
inductive History : Manager → List Turn → Manager → Prop where
  | nil (m : Manager) : History m [] m
  | cons {t : Turn} {turns : List Turn} {m : Manager} : t.Taken → History t.after turns m →
      History t.before (t :: turns) m

section
variable {m m' m'' : Manager}

theorem History.append {a b : List Turn} (h : History m (a ++ b) m'') :
    ∃ m', History m a m' ∧ History m' b m'' := by
  induction a generalizing m with
  | nil => exact ⟨m, .nil m, h⟩
  | cons t a ih =>
    cases h with
    | cons htaken hrest =>
      obtain ⟨m', ha, hb⟩ := ih hrest
      exact ⟨m', .cons htaken ha, hb⟩

/-- A history goes up to each of its turns and on from there. -/
theorem History.split {a b : List Turn} {t : Turn} (h : History m (a ++ t :: b) m') :
    History m a t.before ∧ t.Taken ∧ History t.after b m' := by
  obtain ⟨m₁, ha, hb⟩ := h.append
  cases hb with
  | cons htaken hrest => exact ⟨ha, htaken, hrest⟩

end

/-! ### Calls of a connector with a memory -/

section
variable {σ : Type} (answer : (r : Connector.Request) → σ → r.Reply × σ)

/-- One call while a state gives the replies. -/
def Call.turn (m : Manager) (s : σ) : Call → Turn × σ
  | .get =>
    let ((r, m'), s') := m.getting.run answer s
    (⟨.get, m, m.getting.exchanges answer s, some r, m'⟩, s')
  | .openNew =>
    let ((r, m'), s') := m.opening.run answer s
    (⟨.openNew, m, m.opening.exchanges answer s, some r, m'⟩, s')
  | .disconnect => (⟨.disconnect, m, [], none, m.disconnect⟩, s)

/-- The turns of a sequence of calls, and the manager at the end. -/
def turnsOf : List Call → Manager → σ → List Turn × Manager
  | [], m, _ => ([], m)
  | call :: calls, m, s =>
    let (t, s) := call.turn answer m s
    let (turns, last) := turnsOf calls t.after s
    (t :: turns, last)

variable {answer}

theorem honest_exchanges {α : Type}
    (honest : ∀ c s c', (answer (.connect c) s).1 = Except.ok c' → c' = c.connect)
    (d : Asking α) (s : σ) : Honest (d.exchanges answer s) := by
  induction d generalizing s with
  | done a => simp [exchanges, Honest]
  | ask q next ih =>
    intro c c' hmem
    rcases List.mem_cons.mp hmem with heq | hrest
    · cases q with
      | opens name o => cases heq
      | connect d =>
        obtain ⟨hconnect, hreply⟩ := Sigma.mk.inj heq
        cases hconnect
        exact honest c s c' (eq_of_heq hreply).symm
    · exact ih _ _ c c' hrest

/-- Whatever gives the replies, the calls are a history if what is connected is. -/
theorem history_turnsOf
    (honest : ∀ c s c', (answer (.connect c) s).1 = Except.ok c' → c' = c.connect)
    (calls : List Call) (m : Manager) (s : σ) :
    History m (turnsOf answer calls m s).1 (turnsOf answer calls m s).2 := by
  induction calls generalizing m s with
  | nil => exact .nil m
  | cons call calls ih =>
    have htaken : (call.turn answer m s).1.Taken := by
      cases call with
      | get => exact .get (course_run answer m.getting s) (honest_exchanges honest _ s)
      | openNew => exact .openNew (course_run answer m.opening s) (honest_exchanges honest _ s)
      | disconnect => exact .disconnect m
    have hbefore : (call.turn answer m s).1.before = m := by cases call <;> rfl
    have hrest := History.cons htaken (ih _ (call.turn answer m s).2)
    rw [hbefore] at hrest
    exact hrest

end

namespace Turn

/-- A connection was asked for and given out. -/
def Got (t : Turn) (n : Nat) : Prop :=
  t.call = .get ∧ t.result = some (.ok n)

/-- A connection was opened apart. -/
def OpenedNew (t : Turn) (n : Nat) : Prop :=
  t.call = .openNew ∧ t.result = some (.ok n)

/-- Whatever a turn is called for, it goes in one of these ways. -/
inductive Way (t : Turn) : Prop where
  | failed (e : Fault) : t.call ≠ .disconnect → (t.call = .get → t.before.kept = none) →
      Opens t.before t.log (.error e) → t.result = some (.error e) → t.after = t.before → Way t
  | reused (n : Nat) : t.call = .get → t.before.kept = some n → t.log = [] →
      t.result = some (.ok n) → t.after = t.before → Way t
  | kept (c : Connection) : t.call = .get → t.before.kept = none →
      Opens t.before t.log (.ok c) → c.connected = true → t.result = some (.ok t.before.fresh) →
      t.after = { t.before.withConnection c with kept := some t.before.fresh } → Way t
  | apart (c : Connection) : t.call = .openNew → Opens t.before t.log (.ok c) →
      c.connected = true → t.result = some (.ok t.before.fresh) →
      t.after = t.before.withConnection c → Way t
  | released : t.call = .disconnect → t.log = [] → t.result = none →
      t.after = t.before.disconnect → Way t

theorem Taken.way {t : Turn} (h : t.Taken) : t.Way := by
  cases h with
  | get h honest =>
    rename_i m m' log r
    cases hkept : m.kept with
    | some n =>
      obtain ⟨rfl, rfl, rfl⟩ := getting_course_of_kept hkept h
      exact .reused n rfl hkept rfl rfl rfl
    | none =>
      rcases getting_course_of_none hkept h with ⟨e, hopens, rfl, rfl⟩ | ⟨c, hopens, rfl, rfl⟩
      · exact .failed e (by simp) (fun _ => hkept) hopens rfl rfl
      · exact .kept c rfl hkept hopens (hopens.connected_eq honest) rfl rfl
  | openNew h honest =>
    rcases opening_course h with ⟨e, hopens, rfl, rfl⟩ | ⟨c, hopens, rfl, rfl⟩
    · exact .failed e (by simp) (by simp) hopens rfl rfl
    · exact .apart c rfl hopens (hopens.connected_eq honest) rfl rfl
  | disconnect m => exact .released rfl rfl rfl rfl

variable {t : Turn} {n : Nat}

theorem Taken.kept_of_got (h : t.Taken) (hgot : t.Got n) : t.after.kept = some n := by
  obtain ⟨hcall, hresult⟩ := hgot
  cases h.way with
  | failed e _ _ _ hr => cases hr.symm.trans hresult
  | reused k _ hkept _ hr hafter =>
    cases hr.symm.trans hresult
    rw [hafter, hkept]
  | kept c _ _ _ _ hr hafter =>
    cases hr.symm.trans hresult
    rw [hafter]
  | apart c hc => cases hc.symm.trans hcall
  | released hc => cases hc.symm.trans hcall

/-- Only a disconnection lets go of the connection that is kept. -/
theorem Taken.kept_stays (h : t.Taken) (hcall : t.call ≠ .disconnect)
    (hkept : t.before.kept = some n) : t.after.kept = some n := by
  cases h.way with
  | failed e _ _ _ _ hafter => rw [hafter, hkept]
  | reused k _ _ _ _ hafter => rw [hafter, hkept]
  | kept c _ hnone => cases hnone.symm.trans hkept
  | apart c _ _ _ _ hafter => rw [hafter, ← hkept]; rfl
  | released hc => exact absurd hc hcall

theorem Taken.released (h : t.Taken) (hcall : t.call = .disconnect) :
    t.log = [] ∧ t.result = none ∧ t.after = t.before.disconnect := by
  cases h.way with
  | failed e hc => exact absurd hcall hc
  | reused k hc => cases hc.symm.trans hcall
  | kept c hc => cases hc.symm.trans hcall
  | apart c hc => cases hc.symm.trans hcall
  | released _ hlog hresult hafter => exact ⟨hlog, hresult, hafter⟩

end Turn

/-! ### What is kept, given out and opened apart -/

/-- The connection that is kept is connected, those given out before it are not,
and those opened apart are and belong to nobody else. -/
structure Ledger (got apart : Nat → Prop) (m : Manager) : Prop where
  kept : ∀ n, m.kept = some n → m.Alive n
  got : ∀ n, got n → m.kept = some n ∨ m.Dead n
  apart : ∀ n, apart n → m.Alive n ∧ m.kept ≠ some n

/-- All connections from now on have numbers from this one on. -/
structure Above (low : Nat) (m : Manager) : Prop where
  fresh : low ≤ m.fresh
  kept : ∀ n, m.kept = some n → low ≤ n

section
variable {got apart : Nat → Prop} {m m' : Manager} {low : Nat} {t : Turn}

theorem ledger_of (options : Options) :
    Ledger (fun _ => False) (fun _ => False) (Manager.of options) :=
  ⟨by simp [Manager.of], by simp, by simp⟩

theorem Ledger.of_disconnect (ledger : Ledger got apart m) : Ledger got apart m.disconnect := by
  cases hkept : m.kept with
  | none =>
    rw [disconnect_of_none hkept]
    exact ledger
  | some n =>
    obtain ⟨hdead, hnone, hothers⟩ := disconnect_of_kept hkept (ledger.kept n hkept)
    refine ⟨by simp [hnone], fun k hk => .inr ?_, fun k hk => ⟨?_, by simp [hnone]⟩⟩
    · by_cases hkn : k = n
      · exact hkn ▸ hdead
      · unfold Dead
        rw [hothers k hkn]
        refine (ledger.got k hk).resolve_left fun h => hkn ?_
        exact (Option.some.inj (hkept.symm.trans h)).symm
    · obtain ⟨halive, hne⟩ := ledger.apart k hk
      unfold Alive
      rw [hothers k fun h => hne (h ▸ hkept)]
      exact halive

/-- One turn carries the ledger on. -/
theorem Turn.Taken.ledger (h : t.Taken) (ledger : Ledger got apart t.before) :
    Ledger (fun n => got n ∨ t.Got n) (fun n => apart n ∨ t.OpenedNew n) t.after := by
  cases h.way with
  | failed e _ _ _ hr hafter =>
    rw [hafter]
    refine ⟨ledger.kept, fun n hn => ledger.got n (hn.resolve_right fun hg => ?_),
      fun n hn => ledger.apart n (hn.resolve_right fun ho => ?_)⟩
    · cases hr.symm.trans hg.2
    · cases hr.symm.trans ho.2
  | reused k hc hkept _ hr hafter =>
    rw [hafter]
    refine ⟨ledger.kept, fun n hn => ?_, fun n hn => ledger.apart n (hn.resolve_right fun ho => ?_)⟩
    · rcases hn with hn | hg
      · exact ledger.got n hn
      · cases hr.symm.trans hg.2
        exact .inl hkept
    · cases hc.symm.trans ho.1
  | kept c hc hnone _ hconnected hr hafter =>
    rw [hafter]
    have hfresh := alive_fresh (m := t.before) hconnected
    refine ⟨fun n hn => Option.some.inj hn ▸ hfresh, fun n hn => ?_, fun n hn => ?_⟩
    · rcases hn with hn | hg
      · exact .inr (((ledger.got n hn).resolve_left (by simp [hnone])).withConnection c)
      · cases hr.symm.trans hg.2
        exact .inl rfl
    · obtain ⟨halive, -⟩ := ledger.apart n (hn.resolve_right fun ho => by cases hc.symm.trans ho.1)
      exact ⟨halive.withConnection c, fun h => (Nat.ne_of_gt halive.lt) (Option.some.inj h)⟩
  | apart c hc _ hconnected hr hafter =>
    rw [hafter]
    refine ⟨fun n hn => (ledger.kept n hn).withConnection c, fun n hn => ?_, fun n hn => ?_⟩
    · exact (ledger.got n (hn.resolve_right fun hg => by cases hc.symm.trans hg.1)).imp id
        fun h => h.withConnection c
    · rcases hn with hn | ho
      · exact ⟨(ledger.apart n hn).1.withConnection c, (ledger.apart n hn).2⟩
      · cases hr.symm.trans ho.2
        exact ⟨alive_fresh hconnected, fun h => Nat.lt_irrefl _ (ledger.kept _ h).lt⟩
  | released hc _ _ hafter =>
    rw [hafter]
    have hledger := ledger.of_disconnect
    refine ⟨hledger.kept, fun n hn => hledger.got n (hn.resolve_right fun hg => ?_),
      fun n hn => hledger.apart n (hn.resolve_right fun ho => ?_)⟩
    · cases hc.symm.trans hg.1
    · cases hc.symm.trans ho.1

/-- Numbers are given out once, in ascending order. -/
theorem Turn.Taken.above (h : t.Taken) (above : Above low t.before) :
    Above low t.after ∧ ∀ n, t.Got n → low ≤ n := by
  have hafter : Above low t.after := by
    cases h.way with
    | failed e _ _ _ _ hafter => exact hafter ▸ above
    | reused k _ _ _ _ hafter => exact hafter ▸ above
    | kept c _ _ _ _ _ hafter =>
      rw [hafter]
      exact ⟨Nat.le_trans above.fresh (by simp [fresh, withConnection]),
        fun n hn => Option.some.inj hn ▸ above.fresh⟩
    | apart c _ _ _ _ hafter =>
      rw [hafter]
      exact ⟨Nat.le_trans above.fresh (by simp [fresh, withConnection]), above.kept⟩
    | released _ _ _ hafter =>
      rw [hafter]
      exact ⟨by rw [fresh_disconnect]; exact above.fresh, by simp [kept_disconnect]⟩
  exact ⟨hafter, fun n hgot => hafter.kept n (h.kept_of_got hgot)⟩

/-! ### The same along a history -/

variable {turns : List Turn}

theorem History.ledger (h : History m turns m') (ledger : Ledger got apart m) :
    Ledger (fun n => got n ∨ ∃ t ∈ turns, t.Got n) (fun n => apart n ∨ ∃ t ∈ turns, t.OpenedNew n)
      m' := by
  induction h generalizing got apart with
  | nil m => simpa using ledger
  | cons htaken _ ih =>
    simpa only [List.mem_cons, or_and_right, exists_or, exists_eq_left, or_assoc] using
      ih (htaken.ledger ledger)

theorem History.above (h : History m turns m') (above : Above low m) :
    Above low m' ∧ ∀ t ∈ turns, ∀ n, t.Got n → low ≤ n := by
  induction h with
  | nil m => exact ⟨above, by simp⟩
  | cons htaken _ ih =>
    obtain ⟨hafter, hgot⟩ := htaken.above above
    obtain ⟨hlast, hrest⟩ := ih hafter
    exact ⟨hlast, List.forall_mem_cons.mpr ⟨hgot, hrest⟩⟩

/-- What is given out behind a time when none was kept is new. -/
theorem History.fresh_le_of_got (h : History m turns m') (hkept : m.kept = none)
    (ht : t ∈ turns) {n : Nat} (hgot : t.Got n) : m.fresh ≤ n :=
  (h.above ⟨Nat.le_refl m.fresh, by simp [hkept]⟩).2 t ht n hgot

theorem History.kept_stays (h : History m turns m') {n : Nat}
    (hcalls : ∀ t ∈ turns, t.call ≠ .disconnect) (hkept : m.kept = some n) :
    m'.kept = some n := by
  induction h with
  | nil m => exact hkept
  | cons htaken _ ih =>
    obtain ⟨hfirst, hrest⟩ := List.forall_mem_cons.mp hcalls
    exact ih hrest (htaken.kept_stays hfirst hkept)

/-- A disconnection disconnects all that were given out before it. -/
theorem History.released {options : Options} {a b : List Turn} {early : Turn} {n : Nat}
    (h : History (.of options) (a ++ t :: b) m) (hcall : t.call = .disconnect)
    (hearly : early ∈ a) (hgot : early.Got n) : t.after.Dead n := by
  obtain ⟨hbefore, htaken, -⟩ := h.split
  have ledger := htaken.ledger (hbefore.ledger (ledger_of options))
  refine (ledger.got n (.inl (.inr ⟨early, hearly, hgot⟩))).resolve_left ?_
  simp [(htaken.released hcall).2.2, kept_disconnect]

/-- What is given out behind a disconnection was not given out before it. -/
theorem History.lt_of_got {options : Options} {a b : List Turn} {early late : Turn} {n k : Nat}
    (h : History (.of options) (a ++ t :: b) m) (hcall : t.call = .disconnect)
    (hearly : early ∈ a) (hn : early.Got n) (hlate : late ∈ b) (hk : late.Got k) : n < k := by
  obtain ⟨-, htaken, hrest⟩ := h.split
  have hnone : t.after.kept = none := by rw [(htaken.released hcall).2.2, kept_disconnect]
  exact Nat.lt_of_lt_of_le (h.released hcall hearly hn).lt (hrest.fresh_le_of_got hnone hlate hk)

end

/-! ### The whole -/

/-- One connection is opened: the turn fails as the connector does and changes
nothing, or the connection is connected and given out, and then this is kept. -/
def Turn.OpensOne (t : Turn) (kept : Option Nat) : Prop :=
  openings t.log = 1 ∧
    ((∃ e, Opens t.before t.log (.error e) ∧ t.result = some (.error e) ∧ t.after = t.before) ∨
      ∃ c, Opens t.before t.log (.ok c) ∧ c.connected = true ∧
        t.result = some (.ok t.before.fresh) ∧
        t.after = { t.before.withConnection c with kept := kept })

/-- A connection that is kept is given out without a question; otherwise one is
opened, and kept if it could be connected. -/
structure Turn.GetsOnce (t : Turn) : Prop where
  reused : ∀ n, t.before.kept = some n →
    t.log = [] ∧ t.result = some (.ok n) ∧ t.after = t.before
  opened : t.before.kept = none → t.OpensOne (some t.before.fresh)

/-- What holds of a history of a manager that began without a connection. -/
structure Managed (turns : List Turn) (m : Manager) : Prop where
  /-- Whatever is kept is connected. -/
  kept : ∀ n, m.kept = some n → m.Alive n
  gets : ∀ t ∈ turns, t.call = .get → t.GetsOnce
  /-- What is opened apart changes nothing about what is kept. -/
  opens : ∀ t ∈ turns, t.call = .openNew → t.OpensOne t.before.kept
  /-- Two calls give out one connection if and only if no disconnection lies between them. -/
  same : ∀ before first between second after n k,
    turns = before ++ first :: (between ++ second :: after) → first.Got n → second.Got k →
      (n = k ↔ ∀ t ∈ between, t.call ≠ .disconnect)
  /-- A disconnection asks for nothing and has no result, so it cannot fail. -/
  disconnects : ∀ t ∈ turns, t.call = .disconnect →
    t.log = [] ∧ t.result = none ∧ t.after.kept = none ∧
      (t.before.kept = none → t.after = t.before)
  /-- Behind a disconnection nothing that was given out before it is connected. -/
  released : ∀ before t after, turns = before ++ t :: after → t.call = .disconnect →
    ∀ early ∈ before, ∀ n, early.Got n → t.after.Dead n
  /-- What was opened apart stays connected. -/
  apart : ∀ t ∈ turns, ∀ n, t.OpenedNew n → m.Alive n

theorem Turn.Taken.getsOnce {t : Turn} (h : t.Taken) (hcall : t.call = .get) : t.GetsOnce := by
  cases h.way with
  | failed e _ hnone hopens hr hafter =>
    have hkept := hnone hcall
    exact ⟨by simp [hkept], fun _ => ⟨hopens.openings_eq, .inl ⟨e, hopens, hr, hafter⟩⟩⟩
  | reused n _ hkept hlog hr hafter =>
    refine ⟨fun k hk => ?_, by simp [hkept]⟩
    cases hkept.symm.trans hk
    exact ⟨hlog, hr, hafter⟩
  | kept c _ hnone hopens hconnected hr hafter =>
    exact ⟨by simp [hnone],
      fun _ => ⟨hopens.openings_eq, .inr ⟨c, hopens, hconnected, hr, hafter⟩⟩⟩
  | apart c hc => cases hc.symm.trans hcall
  | released hc => cases hc.symm.trans hcall

theorem Turn.Taken.opensOne {t : Turn} (h : t.Taken) (hcall : t.call = .openNew) :
    t.OpensOne t.before.kept := by
  cases h.way with
  | failed e _ _ hopens hr hafter => exact ⟨hopens.openings_eq, .inl ⟨e, hopens, hr, hafter⟩⟩
  | reused n hc => cases hc.symm.trans hcall
  | kept c hc => cases hc.symm.trans hcall
  | apart c _ hopens hconnected hr hafter =>
    exact ⟨hopens.openings_eq, .inr ⟨c, hopens, hconnected, hr, hafter⟩⟩
  | released hc => cases hc.symm.trans hcall

/-- **No dead connection is kept, and connections are not mixed across a
disconnection**, whatever is asked of a manager and however its connector replies. -/
theorem connections_managed {options : Options} {turns : List Turn} {m : Manager}
    (h : History (.of options) turns m) : Managed turns m := by
  have ledger := h.ledger (ledger_of options)
  constructor
  case kept => exact ledger.kept
  case apart => exact fun t ht n hopened => (ledger.apart n (.inr ⟨t, ht, hopened⟩)).1
  case gets =>
    intro t ht hcall
    obtain ⟨before, after, rfl⟩ := List.append_of_mem ht
    exact h.split.2.1.getsOnce hcall
  case opens =>
    intro t ht hcall
    obtain ⟨before, after, rfl⟩ := List.append_of_mem ht
    exact h.split.2.1.opensOne hcall
  case disconnects =>
    intro t ht hcall
    obtain ⟨before, after, rfl⟩ := List.append_of_mem ht
    obtain ⟨hlog, hresult, hafter⟩ := h.split.2.1.released hcall
    rw [hafter]
    exact ⟨hlog, hresult, kept_disconnect, disconnect_of_none⟩
  case released =>
    rintro before t after rfl hcall early hearly n hgot
    exact h.released hcall hearly hgot
  case same =>
    rintro before first between second after n k rfl hfirst hsecond
    constructor
    · rintro rfl t ht hcall
      obtain ⟨between, rest, rfl⟩ := List.append_of_mem ht
      have hturns : History (.of options)
          ((before ++ first :: between) ++ t :: (rest ++ second :: after)) m := by
        simpa using h
      exact Nat.lt_irrefl n (hturns.lt_of_got hcall (by simp) hfirst (by simp) hsecond)
    · intro hcalls
      obtain ⟨-, hgot, hrest⟩ := h.split
      obtain ⟨hbetween, htaken, -⟩ := hrest.split
      have hkept := hbetween.kept_stays hcalls (hgot.kept_of_got hfirst)
      obtain ⟨-, hresult, -⟩ := (htaken.getsOnce hsecond.1).reused n hkept
      cases hresult.symm.trans hsecond.2
      rfl

/-- A connector that reads from a list whether it can do what it is asked for. -/
def mayFail : (r : Connector.Request) → List Bool → r.Reply × List Bool
  | .opens name _, false :: works => (.error (.database name "not reached"), works)
  | .opens name _, works => (.ok ⟨name, false⟩, works.tail)
  | .connect c, false :: works => (.error (.inconsistentState c.target), works)
  | .connect c, works => (.ok c.connect, works.tail)

theorem mayFail_honest (c : Connection) (works : List Bool) (c' : Connection)
    (h : (mayFail (.connect c) works).1 = Except.ok c') : c' = c.connect := by
  match works with
  | [] => exact (Except.ok.inj h).symm
  | true :: _ => exact (Except.ok.inj h).symm
  | false :: _ => cases h

/-- The first connection is refused, the next is kept while another is opened
apart, and after two disconnections a third one is opened. -/
theorem connections_managed_refused :
    let run := turnsOf mayFail [.get, .get, .openNew, .get, .disconnect, .disconnect, .get]
      (.of .usual) [true, false]
    run.1.map Turn.result = [some (.error (.inconsistentState Database.sectionName)),
      some (.ok 0), some (.ok 1), some (.ok 0), none, none, some (.ok 2)] ∧
    Managed run.1 run.2 :=
  ⟨rfl, connections_managed (history_turnsOf mayFail_honest _ _ _)⟩

end DeviceLab.Scheduler.Manager
