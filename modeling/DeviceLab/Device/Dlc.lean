import DeviceLab.Datum.Record
import DeviceLab.Decimal.Binary64
import DeviceLab.Device.Session
import DeviceLab.Json.Reader

/-! Downloadable content.

Content is installed, removed and listed by a client. Images that came with the
device can be moved aside, so that no installation is satisfied from them. -/
namespace DeviceLab.Device.Dlc

def client : String := "dlcservice_util"

/-- Where the images that came with the device lie. -/
def preloadDir : String :=
  "/mnt/stateful_partition/var_overlay/cache/dlc-images/"

/-- Where they lie while they are moved aside. -/
def disabledDir : String :=
  "/mnt/stateful_partition/var_overlay/cache/dlc-images-disabled/"

/-! ### Listing -/

/-- What the list says about one installed piece of content. -/
structure Info where
  id : String
  name : String
  package : String
  version : String
  rootMount : String
  size : String
  preallocatedSize : String
  imageType : String
  manifest : String
  fsType : String
  deriving DecidableEq

def Info.fields : List String :=
  ["id", "name", "package", "version", "root_mount", "size", "preallocated_size", "image_type",
    "manifest", "fs-type"]

/-- Every field may be left out and is empty then. -/
def Info.of? (d : Datum) : Option Info := do
  let r ← Record.of? Info.fields d
  let field := fun name => r.withDefault name "" Datum.text?
  return {
    id := ← field "id"
    name := ← field "name"
    package := ← field "package"
    version := ← field "version"
    rootMount := ← field "root_mount"
    size := ← field "size"
    preallocatedSize := ← field "preallocated_size"
    imageType := ← field "image_type"
    manifest := ← field "manifest"
    fsType := ← field "fs-type" }

/-- The installed content by its id. -/
abbrev Listing := Dict (List Info)

def listingOf? (text : String) : Option Listing :=
  (Json.read? text).bind (Datum.dict? (Datum.list? Info.of?))

def list : Session Listing := do
  let status ← Session.run (Command.of [client, "--list"])
  match listingOf? status.out with
  | some listing => return listing
  | none => throw (.parse "dlcservice_util --list output" "the text is no list of content")

def isInstalled (id : String) : Session Bool := do
  return (← list).contains id

/-! ### Installing and removing -/

def installTimeout : Nat := 900 * Seconds.second

def install (id url : String) (timeout : Nat) : Session Unit :=
  Session.system
    ((Command.of [client, "--install", "--id=" ++ id, "--omaha_url=" ++ url]).within timeout)

def remove (verb id : String) (ignoreStatus : Bool) : Session Unit :=
  Session.system { Command.of [client, verb, "--id=" ++ id] with ignoreStatus }

/-- Unmounts the content; it can be installed again without a request. -/
def uninstall (id : String) (ignoreStatus : Bool) : Session Unit :=
  remove "--uninstall" id ignoreStatus

/-- Removes the content completely. -/
def purge (id : String) (ignoreStatus : Bool) : Session Unit :=
  remove "--purge" id ignoreStatus

/-! ### Images that came with the device -/

/-- Moves the image aside if there is one. -/
def disableOne (id : String) : Session Unit := do
  let present ← Session.run (Command.of ["test", "-d", preloadDir ++ id]).ignoringStatus
  if present.success then
    Session.system (Command.of ["mv", preloadDir ++ id, disabledDir ++ id])

def disableEach : List String → Session Unit
  | [] => return
  | id :: rest => do
    disableOne id
    disableEach rest

/-- Moves the images of the content aside. -/
def disablePreloaded (ids : List String) : Session Unit := do
  Session.system (Command.of ["mkdir", "-p", disabledDir])
  disableEach ids

def restoreOne (id : String) : Session Unit :=
  Session.system (Command.of ["mv", disabledDir ++ id, preloadDir ++ id]).ignoringStatus

def restoreEach : List String → Session Unit
  | [] => return
  | id :: rest => do
    restoreOne id
    restoreEach rest

/-- Moves the images back. -/
def restorePreloaded (ids : List String) : Session Unit := do
  restoreEach ids
  Session.system (Command.of ["rm", "-r", disabledDir]).ignoringStatus

end DeviceLab.Device.Dlc
