/-
Sessions: a manager that comes and goes, the files around it, and the holders of what it handed
out. Holders have names; what they hold outlives the manager.
-/

import SyntaxHighlight.Manager.Basic

namespace SyntaxHighlight

structure Session where
  config : Config
  /-- A store to start with in place of the one of the settings. -/
  ownStore? : Option Store := none
  files : FileTree := {}
  manager? : Option Manager := none
  modes : Dictionary String SharedMode := []
  styles : Dictionary String SharedStyles := []
  /-- A number above those of all instances so far. -/
  nextInstance : Nat := 0

namespace Session

/-- The numbers of the instances of modes that are held. -/
def held (session : Session) : List Nat :=
  session.modes.map fun (_, shared) => shared.instanceNumber

/-- The session with the manager as it is now. -/
def keep (session : Session) (manager : Manager) : Session :=
  { session with manager? := some manager, nextInstance := manager.nextInstance }

/-- Starts a manager in place of any other one. -/
def start (session : Session) : Session × Except HighlightError Unit :=
  let session := { session with manager? := none }
  let config := session.config
  let first := session.nextInstance
  match session.ownStore? with
  | some store =>
      (session.keep (Manager.withStore config (.memory store) session.files first), .ok ())
  | none =>
      match Manager.start config session.files first with
      | .ok manager => (session.keep manager, .ok ())
      | .error error => (session, .error error)

/-- Writes the overrides that are not yet in their file. -/
def flush (session : Session) (manager : Manager) : Session × Except StoreError Unit :=
  match manager.flush session.files with
  | .ok (manager, files) => ({ session.keep manager with files }, .ok ())
  | .error error => (session, .error error)

/-- Writes what is to be written and ends the manager, whether that succeeds or not. -/
def shutdown (session : Session) (manager : Manager) : Session × Except StoreError Unit :=
  let (session, result) := session.flush manager
  ({ session with manager? := none }, result)

/-- Takes a mode over from the manager, for a holder if one is named. -/
def hold (session : Session) (holder? : Option String) : Manager × SharedMode → Session
  | (manager, shared) =>
      let session := session.keep manager
      match holder? with
      | some holder => { session with modes := session.modes.set holder shared }
      | none => session

/-- Lets go of the mode of a holder. -/
def drop (session : Session) (holder : String) : Session :=
  { session with modes := session.modes.erase holder }

/-- Takes styles over from the manager for a holder. -/
def holdStyles (session : Session) (holder : String) : Manager × SharedStyles → Session
  | (manager, shared) =>
      { session.keep manager with styles := session.styles.set holder shared }

end Session

end SyntaxHighlight
