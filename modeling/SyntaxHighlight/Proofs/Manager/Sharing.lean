/-
Who is given the same mode. A manager knows a mode only as long as somebody holds it, so which mode
a name stands for depends on all that was handed out, held, let go of and read again before. A
history of a session keeps what was handed out; the manager knows the last of it under each name,
unless nobody holds that any more.
-/

import Mathlib.Data.List.Dedup
import SyntaxHighlight.Manager.Session
import SyntaxHighlight.Proofs.Manager.Instances
import SyntaxHighlight.Proofs.Mode.Closure

namespace SyntaxHighlight

/-- The name of the mode that a manager takes for a file. -/
def Manager.selectedName? (manager : Manager) (files : FileTree) (path : String) : Option String :=
  ((Repository.findForFile? files path).run manager.repository).1.map Definition.name

namespace Session

/-! ### Histories -/

/-- What happens in a session. Whoever asks for a mode may become its holder, or let go of it at
once. -/
inductive Event where
  | modeForName (name : String) (holder? : Option String)
  | modeForFile (path : String) (holder? : Option String)
  | reload (name : String) (holder? : Option String)
  | plainMode (holder? : Option String)
  | liveModes
  | styles (holder schema : String)
  | addSchema (schema : Schema)
  | setOverrides (holder schema : String) (attrs : List Attribute) (withDefaults : Bool)
  /-- The definitions that the manager knows change in some way. -/
  | redefine (repository : Repository)
  | changeFiles (files : FileTree)
  /-- A holder gives what it holds to another one as well. -/
  | lend (holder other : String)
  | drop (holder : String)

/-- A mode that was handed out under a name. -/
structure Handout where
  name : String
  shared : SharedMode
  /-- Whether the definition was read again for it. -/
  reloaded : Bool

/-- A session with the highlighting modes that were handed out in it, the last one first. -/
structure History where
  session : Session
  handouts : List Handout := []

namespace History

/-- Takes over what a manager gives for a name. The plain mode is not handed out under a name. -/
def receive (history : History) (name : String) (reloaded : Bool) (holder? : Option String)
    (result : Manager × SharedMode) : History where
  session := history.session.hold holder? result
  handouts :=
    if result.2.mode.isPlain then history.handouts
    else ⟨name, result.2, reloaded⟩ :: history.handouts

def keep (history : History) (manager : Manager) : History :=
  { history with session := history.session.keep manager }

def perform (history : History) (event : Event) : History :=
  let session := history.session
  match event, session.manager? with
  | .modeForName name holder?, some manager =>
      history.receive name false holder? (manager.modeForName session.files session.held name)
  | .modeForFile path holder?, some manager =>
      let name := (manager.selectedName? session.files path).getD noHighlightingName
      history.receive name false holder? (manager.modeForFile session.files session.held path)
  | .reload name holder?, some manager =>
      match manager.reload session.files name with
      | (manager, .ok shared) => history.receive name true holder? (manager, shared)
      | (manager, .error _) => history.keep manager
  | .plainMode holder?, some manager =>
      { history with session := session.hold holder? (manager, manager.plainMode) }
  | .liveModes, some manager => history.keep (manager.liveModes session.held).1
  | .styles holder schema, some manager =>
      match session.modes.get? holder with
      | some shared =>
          { history with session := session.holdStyles holder (manager.styles shared schema) }
      | none => history
  | .addSchema schema, some manager => history.keep (manager.addSchema schema)
  | .setOverrides holder schema attrs withDefaults, some manager =>
      match session.modes.get? holder with
      | some shared =>
          history.keep (manager.setOverrides shared.mode schema attrs withDefaults)
      | none => history
  | .redefine repository, some manager => history.keep { manager with repository }
  | .changeFiles files, _ => { history with session := { session with files } }
  | .lend holder other, _ =>
      match session.modes.get? holder with
      | some shared =>
          { history with session := { session with modes := session.modes.set other shared } }
      | none => history
  | .drop holder, _ => { history with session := session.drop holder }
  | _, none => history

def run (history : History) (events : List Event) : History := events.foldl perform history

end History

/-- The mode that was handed out last under a name. -/
def latest? (handouts : List Handout) (name : String) : Option SharedMode :=
  (handouts.find? fun handout => handout.name = name).map Handout.shared

/-- A mode that was handed out, that is held still, and whose definition was not read again
since. -/
def History.IsCurrent (history : History) (handout : Handout) : Prop :=
  handout.shared.instanceNumber ∈ history.session.held ∧
    ∃ later earlier, history.handouts = later ++ handout :: earlier ∧
      ∀ other ∈ later, other.name = handout.name → other.reloaded = false

/-- The names whose last mode has a holder. -/
def History.liveNames (history : History) : List String :=
  (history.handouts.map Handout.name).dedup.filter fun name =>
    (latest? history.handouts name).any fun shared =>
      history.session.held.contains shared.instanceNumber

/-- Everybody who asks for a mode that is current is given it, and the manager counts the names
whose last mode has a holder. -/
structure History.SharesModes (history : History) (manager : Manager) : Prop where
  byName : ∀ handout, history.IsCurrent handout →
    handout.name ≠ "" → handout.name ≠ noHighlightingName →
      (manager.modeForName history.session.files history.session.held handout.name).2 =
        handout.shared
  byFile : ∀ handout, history.IsCurrent handout →
    handout.name ≠ "" → handout.name ≠ noHighlightingName →
      ∀ path, manager.selectedName? history.session.files path = some handout.name →
        (manager.modeForFile history.session.files history.session.held path).2 = handout.shared
  count : (manager.liveModes history.session.held).2 = history.liveNames.length

/-! ### What is handed out and held -/

theorem latest?_cons (handout : Handout) (rest : List Handout) (name : String) :
    latest? (handout :: rest) name =
      if handout.name = name then some handout.shared else latest? rest name := by
  unfold latest?
  rw [List.find?_cons]
  by_cases same : handout.name = name
  · simp only [same, decide_true, if_true, Option.map_some]
  · simp only [same, decide_false, if_false]

theorem mem_of_latest? {handouts : List Handout} {name : String} {shared : SharedMode}
    (last : latest? handouts name = some shared) :
    ∃ handout ∈ handouts, handout.name = name ∧ handout.shared = shared := by
  obtain ⟨handout, found, rfl⟩ := Option.map_eq_some_iff.mp last
  exact ⟨handout, List.mem_of_find?_eq_some found, by simpa using List.find?_some found, rfl⟩

variable {session : Session} {number : Nat}

theorem mem_held_set {holder : String} {shared : SharedMode} {modes : Dictionary String SharedMode}
    (member : number ∈ ({ session with modes := modes.set holder shared } : Session).held) :
    number = shared.instanceNumber ∨ number ∈ ({ session with modes } : Session).held := by
  obtain ⟨entry, entryMember, rfl⟩ := List.mem_map.mp member
  rcases Dictionary.mem_set entryMember with rfl | old
  · exact Or.inl rfl
  · exact Or.inr (List.mem_map.mpr ⟨entry, old, rfl⟩)

theorem mem_held_hold {holder? : Option String} {result : Manager × SharedMode}
    (member : number ∈ (session.hold holder? result).held) :
    number = result.2.instanceNumber ∨ number ∈ session.held := by
  cases holder? with
  | none => exact Or.inr member
  | some holder => exact mem_held_set member

theorem mem_held_drop {holder : String} (member : number ∈ (session.drop holder).held) :
    number ∈ session.held := by
  obtain ⟨entry, entryMember, rfl⟩ := List.mem_map.mp member
  have sublist := Dictionary.erase_sublist holder session.modes
  exact List.mem_map.mpr ⟨entry, sublist.subset entryMember, rfl⟩

theorem mem_held_of_get? {holder : String} {shared : SharedMode}
    (found : session.modes.get? holder = some shared) : shared.instanceNumber ∈ session.held :=
  List.mem_map.mpr ⟨(holder, shared), Dictionary.mem_of_get? found, rfl⟩

/-! ### What a manager knows of it -/

/-- A highlighting mode that a manager has made. -/
structure IsMadeBy (manager : Manager) (shared : SharedMode) : Prop where
  lit : shared.mode.isPlain = false
  below : shared.instanceNumber < manager.nextInstance
  apart : shared.instanceNumber ≠ manager.plainMode.instanceNumber

/-- A manager knows what was handed out last under each name, except for what nobody holds. No
number that was let go of comes back: what is held anew has been held before, is plain, or is
new. -/
structure IsTracked (manager : Manager) (held : List Nat) (handouts : List Handout) : Prop where
  isPlain : manager.plainMode.mode.isPlain = true
  plainBelow : manager.plainMode.instanceNumber < manager.nextInstance
  heldBelow : ∀ number ∈ held, number < manager.nextInstance
  made : ∀ handout ∈ handouts, IsMadeBy manager handout.shared
  nodup : manager.modes.keys.Nodup
  known : ∀ name shared, manager.modes.get? name = some shared →
    latest? handouts name = some shared
  unforgotten : ∀ name shared, latest? handouts name = some shared →
    shared.instanceNumber ∈ held → manager.modes.get? name = some shared
  current : ∀ later handout earlier, handouts = later ++ handout :: earlier →
    (∀ other ∈ later, other.name = handout.name → other.reloaded = false) →
    handout.shared.instanceNumber ∈ held → latest? handouts handout.name = some handout.shared

variable {manager after : Manager} {held heldAfter : List Nat} {handouts : List Handout}
  {name : String} {shared : SharedMode}

theorem IsMadeBy.mono (made : IsMadeBy manager shared)
    (plain : after.plainMode = manager.plainMode)
    (next : manager.nextInstance ≤ after.nextInstance) : IsMadeBy after shared := by
  refine ⟨made.lit, Nat.lt_of_lt_of_le made.below next, ?_⟩
  rw [plain]
  exact made.apart

theorem IsTracked.latest_made (tracked : IsTracked manager held handouts)
    (last : latest? handouts name = some shared) : IsMadeBy manager shared := by
  obtain ⟨handout, member, rfl, rfl⟩ := mem_of_latest? last
  exact tracked.made handout member

/-- Nothing is handed out and the manager knows the same modes as before. -/
theorem IsTracked.quiet (tracked : IsTracked manager held handouts)
    (modes : after.modes = manager.modes) (plain : after.plainMode = manager.plainMode)
    (next : manager.nextInstance ≤ after.nextInstance)
    (kept : ∀ number ∈ heldAfter, number ∈ held ∨ number = manager.plainMode.instanceNumber) :
    IsTracked after heldAfter handouts := by
  have before : ∀ {shared}, IsMadeBy manager shared → shared.instanceNumber ∈ heldAfter →
      shared.instanceNumber ∈ held :=
    fun made member => (kept _ member).resolve_right made.apart
  constructor
  case isPlain =>
    rw [plain]
    exact tracked.isPlain
  case plainBelow =>
    rw [plain]
    exact Nat.lt_of_lt_of_le tracked.plainBelow next
  case heldBelow =>
    intro number member
    apply Nat.lt_of_lt_of_le _ next
    rcases kept number member with present | rfl
    · exact tracked.heldBelow number present
    · exact tracked.plainBelow
  case made => exact fun handout member => (tracked.made handout member).mono plain next
  case nodup =>
    rw [modes]
    exact tracked.nodup
  case known =>
    rw [modes]
    exact tracked.known
  case unforgotten =>
    intro name shared last member
    rw [modes]
    exact tracked.unforgotten name shared last (before (tracked.latest_made last) member)
  case current =>
    intro later handout earlier split unread member
    have present : handout ∈ handouts := by
      rw [split]
      exact List.mem_append_right later List.mem_cons_self
    exact tracked.current later handout earlier split unread
      (before (tracked.made handout present) member)

/-- The manager hands out a mode that it knows and that is held. -/
theorem IsTracked.again (tracked : IsTracked manager held handouts)
    (found : manager.modes.get? name = some shared) :
    IsTracked manager held (⟨name, shared, false⟩ :: handouts) := by
  have last := tracked.known name shared found
  have same : ∀ other, latest? (⟨name, shared, false⟩ :: handouts) other =
      latest? handouts other := by
    intro other
    rw [latest?_cons]
    split
    · rename_i equal
      rw [← equal, last]
    · rfl
  refine { tracked with made := ?_, known := ?_, unforgotten := ?_, current := ?_ }
  · intro other member
    rcases List.mem_cons.mp member with rfl | behind
    · exact tracked.latest_made last
    · exact tracked.made other behind
  · intro other known foundOther
    rw [same]
    exact tracked.known other known foundOther
  · intro other known lastOther
    rw [same] at lastOther
    exact tracked.unforgotten other known lastOther
  · intro later other earlier split unread member
    rw [same]
    cases later with
    | nil =>
        cases split
        exact last
    | cons newest later =>
        cases split
        exact tracked.current later other earlier rfl
          (fun one oneMember => unread one (List.mem_cons_of_mem _ oneMember)) member

/-- The manager makes a mode, because nobody holds one of the name or because its definition is
read again. -/
theorem IsTracked.further (tracked : IsTracked manager held handouts) {mode : Mode}
    {reloaded : Bool} (lit : mode.isPlain = false)
    (modes : after.modes = manager.modes.set name ⟨manager.nextInstance, mode⟩)
    (plain : after.plainMode = manager.plainMode)
    (next : after.nextInstance = manager.nextInstance + 1)
    (kept : ∀ number ∈ heldAfter, number ∈ held ∨ number = manager.nextInstance)
    (free : reloaded = true ∨ manager.liveMode? held name = none) :
    IsTracked after heldAfter (⟨name, ⟨manager.nextInstance, mode⟩, reloaded⟩ :: handouts) := by
  have before : ∀ {shared}, IsMadeBy manager shared → shared.instanceNumber ∈ heldAfter →
      shared.instanceNumber ∈ held :=
    fun made member => (kept _ member).resolve_right (Nat.ne_of_lt made.below)
  constructor
  case isPlain =>
    rw [plain]
    exact tracked.isPlain
  case plainBelow =>
    rw [plain, next]
    exact Nat.lt_succ_of_lt tracked.plainBelow
  case heldBelow =>
    intro number member
    rw [next]
    rcases kept number member with present | rfl
    · exact Nat.lt_succ_of_lt (tracked.heldBelow number present)
    · exact Nat.lt_succ_self _
  case made =>
    intro handout member
    rcases List.mem_cons.mp member with rfl | behind
    · refine ⟨lit, ?_, ?_⟩
      · rw [next]
        exact Nat.lt_succ_self _
      · rw [plain]
        exact Nat.ne_of_gt tracked.plainBelow
    · exact (tracked.made handout behind).mono plain (next ▸ Nat.le_succ _)
  case nodup =>
    rw [modes]
    exact Dictionary.nodup_keys_set tracked.nodup name _
  case known =>
    intro other shared
    rw [modes, Dictionary.get?_set, latest?_cons]
    split
    · exact id
    · exact tracked.known other shared
  case unforgotten =>
    intro other shared
    rw [modes, Dictionary.get?_set, latest?_cons]
    split
    · exact fun last _ => last
    · intro last member
      exact tracked.unforgotten other shared last (before (tracked.latest_made last) member)
  case current =>
    intro later handout earlier split unread member
    cases later with
    | nil =>
        cases split
        rw [latest?_cons, if_pos rfl]
    | cons newest later =>
        cases split
        have present : handout ∈ later ++ handout :: earlier :=
          List.mem_append_right later List.mem_cons_self
        have heldBefore := before (tracked.made handout present) member
        have last := tracked.current later handout earlier rfl
          (fun one oneMember => unread one (List.mem_cons_of_mem _ oneMember)) heldBefore
        rw [latest?_cons]
        split
        · -- The manager knew this one, so it had no reason to make another one.
          rename_i same
          have unreloaded : reloaded = false := unread _ List.mem_cons_self same
          have missing := free.resolve_left (by simp [unreloaded])
          have found := tracked.unforgotten _ _ last heldBefore
          rw [← same] at found
          unfold Manager.liveMode? at missing
          rw [found, Option.filter_some, if_pos (by simpa using heldBefore)] at missing
          cases missing
        · exact last

/-- What is left in the manager when it forgets the modes that nobody holds. -/
theorem IsTracked.get?_liveModes (tracked : IsTracked manager held handouts) :
    (manager.liveModes held).1.modes.get? name = some shared ↔
      latest? handouts name = some shared ∧ shared.instanceNumber ∈ held := by
  have pruned := Dictionary.nodup_keys_filter tracked.nodup fun entry =>
    held.contains entry.2.instanceNumber
  refine (Dictionary.get?_eq_some_iff pruned).trans ?_
  rw [List.mem_filter, List.contains_iff_mem, ← Dictionary.get?_eq_some_iff tracked.nodup]
  constructor
  · rintro ⟨found, isHeld⟩
    exact ⟨tracked.known name shared found, isHeld⟩
  · rintro ⟨last, isHeld⟩
    exact ⟨tracked.unforgotten name shared last isHeld, isHeld⟩

theorem IsTracked.prune (tracked : IsTracked manager held handouts) :
    IsTracked (manager.liveModes held).1 held handouts := by
  refine { tracked with made := ?_, nodup := ?_, known := ?_, unforgotten := ?_ }
  · exact fun handout member => (tracked.made handout member).mono rfl (Nat.le_refl _)
  · exact Dictionary.nodup_keys_filter tracked.nodup _
  · exact fun name shared found => (tracked.get?_liveModes.mp found).1
  · exact fun name shared last isHeld => tracked.get?_liveModes.mpr ⟨last, isHeld⟩

/-! ### One event -/

/-- What a manager gives for a name. -/
inductive Gives (manager : Manager) (held : List Nat) (name : String) :
    Manager × SharedMode → Prop
  | plain (repository : Repository) :
      Gives manager held name ({ manager with repository }, manager.plainMode)
  | live (repository : Repository) (shared : SharedMode)
      (found : manager.liveMode? held name = some shared) :
      Gives manager held name ({ manager with repository }, shared)
  | made (repository : Repository) (mode : Mode) (lit : mode.isPlain = false)
      (free : manager.liveMode? held name = none) :
      Gives manager held name (({ manager with repository } : Manager).share name mode)

theorem Gives.of_repository {repository : Repository} {result : Manager × SharedMode}
    (gives : Gives { manager with repository } held name result) :
    Gives manager held name result := by
  cases gives with
  | plain later => exact .plain later
  | live later shared found => exact .live later shared found
  | made later mode lit free => exact .made later mode lit free

theorem compile_notPlain {repository later : Repository} {files : FileTree} {maxDepth : Nat}
    {mode : Mode} (made : repository.compile files name maxDepth = (later, .ok mode)) :
    mode.isPlain = false := by
  unfold Repository.compile at made
  split at made
  · cases made
  · obtain ⟨drafts, formed⟩ := Mode.isMadeFrom_of_ofDefinitions (Prod.mk.inj made).2
    exact formed.notPlain

theorem modeForName_gives (manager : Manager) (files : FileTree) (held : List Nat)
    (name : String) : Gives manager held name (manager.modeForName files held name) := by
  unfold Manager.modeForName
  split
  · exact .plain manager.repository
  · cases live : manager.liveMode? held name with
    | some shared => exact .live manager.repository shared live
    | none =>
        cases compiled : manager.repository.compile files name manager.config.maxDepth with
        | mk repository made =>
            cases made with
            | error error => exact .plain repository
            | ok mode => exact .made repository mode (compile_notPlain compiled) live

theorem modeForFile_gives (manager : Manager) (files : FileTree) (held : List Nat)
    (path : String) :
    Gives manager held ((manager.selectedName? files path).getD noHighlightingName)
      (manager.modeForFile files held path) := by
  unfold Manager.modeForFile Manager.selectedName?
  obtain ⟨found, repository⟩ := (Repository.findForFile? files path).run manager.repository
  cases found with
  | none => exact .plain repository
  | some definition =>
      exact (modeForName_gives { manager with repository } files held definition.name).of_repository

theorem reload_made {files : FileTree}
    (reloaded : manager.reload files name = (after, .ok shared)) :
    ∃ mode, mode.isPlain = false ∧ shared = ⟨manager.nextInstance, mode⟩ ∧
      after.modes = manager.modes.set name shared ∧ after.plainMode = manager.plainMode ∧
        after.nextInstance = manager.nextInstance + 1 := by
  unfold Manager.reload at reloaded
  cases read : manager.repository.reload files name with
  | mk repository result =>
      rw [read] at reloaded
      cases result with
      | error error => cases reloaded
      | ok definition =>
          dsimp only at reloaded
          cases compiled : repository.compile files name manager.config.maxDepth with
          | mk later made =>
              rw [compiled] at reloaded
              cases made with
              | error error => cases reloaded
              | ok mode =>
                  cases reloaded
                  exact ⟨mode, compile_notPlain compiled, rfl, rfl, rfl, rfl⟩

theorem styles_leaves (manager : Manager) (shared : SharedMode) (schema : String) :
    (manager.styles shared schema).1.modes = manager.modes ∧
      (manager.styles shared schema).1.plainMode = manager.plainMode ∧
        manager.nextInstance ≤ (manager.styles shared schema).1.nextInstance := by
  cases kept : manager.cache.get? (shared.stylesKey schema) with
  | some styles =>
      rw [Manager.styles_of_cached kept]
      exact ⟨rfl, rfl, Nat.le_refl _⟩
  | none =>
      rw [Manager.styles_of_missing kept]
      exact ⟨rfl, rfl, Nat.le_succ _⟩

def History.IsTracked (history : History) : Prop :=
  ∃ manager, history.session.manager? = some manager ∧
    Session.IsTracked manager history.session.held history.handouts

variable {history : History}

theorem History.receive_isTracked (tracked : Session.IsTracked manager history.session.held
    history.handouts) {result : Manager × SharedMode}
    (gives : Gives manager history.session.held name result) (holder? : Option String) :
    (history.receive name false holder? result).IsTracked := by
  refine ⟨result.1, by cases holder? <;> rfl, ?_⟩
  have held : ∀ number ∈ (history.session.hold holder? result).held,
      number ∈ history.session.held ∨ number = result.2.instanceNumber :=
    fun number member => (mem_held_hold member).symm
  cases gives with
  | plain repository =>
      dsimp only [receive]
      rw [if_pos tracked.isPlain]
      exact tracked.quiet rfl rfl (Nat.le_refl _) held
  | live repository shared found =>
      obtain ⟨known, live⟩ := Option.filter_eq_some_iff.mp found
      have lit := (tracked.latest_made (tracked.known name shared known)).lit
      dsimp only [receive]
      rw [lit]
      refine (tracked.again known).quiet rfl rfl (Nat.le_refl _) ?_
      intro number member
      rcases held number member with present | rfl
      · exact Or.inl present
      · exact Or.inl (List.contains_iff_mem.mp live)
  | made repository mode lit free =>
      dsimp only [receive, Manager.share]
      rw [lit]
      exact tracked.further lit rfl rfl rfl held (Or.inr free)

theorem History.perform_isTracked (tracked : history.IsTracked) (event : Event) :
    (history.perform event).IsTracked := by
  obtain ⟨manager, managed, tracked⟩ := tracked
  -- All but four kinds of events leave the modes of the manager and what was handed out alone.
  have quiet : ∀ {session : Session} {later : Manager}, session.manager? = some later →
      later.modes = manager.modes → later.plainMode = manager.plainMode →
      manager.nextInstance ≤ later.nextInstance →
      (∀ number ∈ session.held,
        number ∈ history.session.held ∨ number = manager.plainMode.instanceNumber) →
      History.IsTracked ⟨session, history.handouts⟩ :=
    fun managed modes plain next kept => ⟨_, managed, tracked.quiet modes plain next kept⟩
  have unchanged : history.IsTracked := ⟨manager, managed, tracked⟩
  have same : ∀ number ∈ history.session.held,
      number ∈ history.session.held ∨ number = manager.plainMode.instanceNumber :=
    fun number member => Or.inl member
  cases event with
  | modeForName name holder? =>
      simp only [perform, managed]
      exact receive_isTracked tracked (modeForName_gives manager _ _ name) holder?
  | modeForFile path holder? =>
      simp only [perform, managed]
      exact receive_isTracked tracked (modeForFile_gives manager _ _ path) holder?
  | reload name holder? =>
      simp only [perform, managed]
      cases reloaded : manager.reload history.session.files name with
      | mk later result =>
          cases result with
          | error error =>
              rcases Manager.reload_cases manager history.session.files name with
                ⟨other, shared, made, -⟩ | ⟨repository, other, failed⟩
              · cases reloaded.symm.trans made
              · cases reloaded.symm.trans failed
                exact quiet rfl rfl rfl (Nat.le_refl _) same
          | ok shared =>
              obtain ⟨mode, lit, rfl, modes, plain, next⟩ := reload_made reloaded
              refine ⟨later, by cases holder? <;> rfl, ?_⟩
              dsimp only [receive]
              rw [lit]
              exact tracked.further lit modes plain next
                (fun number member => (mem_held_hold member).symm) (Or.inl rfl)
  | plainMode holder? =>
      simp only [perform, managed]
      exact quiet (by cases holder? <;> rfl) rfl rfl (Nat.le_refl _)
        fun number member => (mem_held_hold member).symm
  | liveModes =>
      simp only [perform, managed]
      exact ⟨_, rfl, tracked.prune⟩
  | styles holder schema =>
      simp only [perform, managed]
      split
      · rename_i shared _
        obtain ⟨modes, plain, next⟩ := styles_leaves manager shared schema
        exact quiet rfl modes plain next same
      · exact unchanged
  | addSchema schema =>
      simp only [perform, managed]
      exact quiet rfl rfl rfl (Nat.le_refl _) same
  | setOverrides holder schema attrs withDefaults =>
      simp only [perform, managed]
      split
      · exact quiet rfl rfl rfl (Nat.le_refl _) same
      · exact unchanged
  | redefine repository =>
      simp only [perform, managed]
      exact quiet rfl rfl rfl (Nat.le_refl _) same
  | changeFiles files => exact quiet managed rfl rfl (Nat.le_refl _) same
  | lend holder other =>
      simp only [perform]
      split
      · rename_i shared found
        refine quiet managed rfl rfl (Nat.le_refl _) ?_
        intro number member
        rcases mem_held_set member with rfl | present
        · exact Or.inl (mem_held_of_get? found)
        · exact Or.inl present
      · exact unchanged
  | drop holder =>
      exact quiet managed rfl rfl (Nat.le_refl _) fun number member => Or.inl (mem_held_drop member)

/-! ### Whole histories -/

theorem History.run_isTracked (tracked : history.IsTracked) (events : List Event) :
    (history.run events).IsTracked := by
  induction events generalizing history with
  | nil => exact tracked
  | cons event rest ih => exact ih (perform_isTracked tracked event)

/-- A session begins with a manager that knows no mode but the plain one. -/
theorem start_manager {begun : Session} (started : session.start = (begun, .ok ())) :
    ∃ store, begun = ({ session with manager? := none } : Session).keep
      (.withStore session.config store session.files session.nextInstance) := by
  unfold start Manager.start at started
  dsimp only at started
  split at started
  · cases started
    exact ⟨_, rfl⟩
  · split at started
    · rename_i given
      split at given
      · cases given
        cases started
        exact ⟨_, rfl⟩
      · split at given
        · cases given
          cases started
          exact ⟨_, rfl⟩
        · cases given
    · cases started

theorem start_isTracked {begun : Session} (started : session.start = (begun, .ok ()))
    (numbered : ∀ number ∈ session.held, number < session.nextInstance) :
    History.IsTracked ⟨begun, []⟩ := by
  obtain ⟨store, rfl⟩ := start_manager started
  refine ⟨_, rfl, ?_⟩
  constructor
  case isPlain => rfl
  case plainBelow => exact Nat.lt_succ_self _
  case heldBelow => exact fun number member => Nat.lt_succ_of_lt (numbered number member)
  case nodup => exact List.nodup_nil
  case made => exact fun handout impossible => nomatch impossible
  case known => exact fun name shared impossible => nomatch impossible
  case unforgotten => exact fun name shared impossible => nomatch impossible
  case current =>
    intro later handout earlier split
    cases later <;> cases split

theorem IsTracked.liveMode?_of_isCurrent {history : History}
    (tracked : Session.IsTracked manager history.session.held history.handouts)
    {handout : Handout} (current : history.IsCurrent handout) :
    manager.liveMode? history.session.held handout.name = some handout.shared := by
  obtain ⟨isHeld, later, earlier, split, unread⟩ := current
  have last := tracked.current later handout earlier split unread isHeld
  have found := tracked.unforgotten _ _ last isHeld
  exact Option.filter_eq_some_iff.mpr ⟨found, List.contains_iff_mem.mpr isHeld⟩

theorem modeForName_of_live {files : FileTree} (live : manager.liveMode? held name = some shared)
    (nonempty : name ≠ "") (apart : name ≠ noHighlightingName) :
    manager.modeForName files held name = (manager, shared) := by
  unfold Manager.modeForName
  rw [if_neg (by simp [nonempty, apart]), live]

theorem modeForFile_of_live {files : FileTree} {path : String}
    (live : manager.liveMode? held name = some shared)
    (nonempty : name ≠ "") (apart : name ≠ noHighlightingName)
    (selected : manager.selectedName? files path = some name) :
    (manager.modeForFile files held path).2 = shared := by
  unfold Manager.selectedName? at selected
  unfold Manager.modeForFile
  obtain ⟨definition, found, rfl⟩ := Option.map_eq_some_iff.mp selected
  cases looked : (Repository.findForFile? files path).run manager.repository with
  | mk found? repository =>
      rw [looked] at found
      cases found
      have same : ({ manager with repository } : Manager).liveMode? held definition.name =
        some shared := live
      exact congrArg Prod.snd (modeForName_of_live same nonempty apart)

theorem IsTracked.count {history : History}
    (tracked : Session.IsTracked manager history.session.held history.handouts) :
    (manager.liveModes history.session.held).2 = history.liveNames.length := by
  -- The modes that are left, and the names with live modes, are the same names without repetition.
  have pruned := tracked.prune
  have mem : ∀ name, name ∈ (manager.liveModes history.session.held).1.modes.keys ↔
      name ∈ history.liveNames := by
    intro name
    unfold History.liveNames
    rw [List.mem_filter, List.mem_dedup, Option.any_eq_true]
    constructor
    · intro member
      obtain ⟨⟨_, shared⟩, entry, rfl⟩ := List.mem_map.mp member
      obtain ⟨last, isHeld⟩ :=
        tracked.get?_liveModes.mp ((Dictionary.get?_eq_some_iff pruned.nodup).mpr entry)
      obtain ⟨handout, present, rfl, -⟩ := mem_of_latest? last
      exact ⟨List.mem_map_of_mem present, shared, last, List.contains_iff_mem.mpr isHeld⟩
    · rintro ⟨-, shared, last, isHeld⟩
      have found := tracked.get?_liveModes.mpr ⟨last, List.contains_iff_mem.mp isHeld⟩
      exact Dictionary.mem_keys_of_mem (Dictionary.mem_of_get? found)
  have perm := (List.perm_ext_iff_of_nodup pruned.nodup
    ((List.nodup_dedup _).filter _)).mpr mem
  have lengths := perm.length_eq
  rw [Dictionary.keys, List.length_map] at lengths
  exact lengths

/-- Whatever happens in a session: a highlighting mode that was handed out under a name is given to
everybody who asks for that name as long as it is held and its definition is not read again, and
the manager counts exactly the names whose last mode is held. -/
theorem run_sharesModes {begun : Session} (started : session.start = (begun, .ok ()))
    (numbered : ∀ number ∈ session.held, number < session.nextInstance) (events : List Event) :
    ∃ manager, ((History.mk begun []).run events).session.manager? = some manager ∧
      ((History.mk begun []).run events).SharesModes manager := by
  obtain ⟨manager, managed, tracked⟩ :=
    History.run_isTracked (start_isTracked started numbered) events
  refine ⟨manager, managed, ?_, ?_, tracked.count⟩
  · intro handout current nonempty apart
    rw [modeForName_of_live (tracked.liveMode?_of_isCurrent current) nonempty apart]
  · intro handout current nonempty apart path selected
    exact modeForFile_of_live (tracked.liveMode?_of_isCurrent current) nonempty apart selected

/-- A session without files that keeps overrides in memory. -/
def bareSession : Session where
  config := {}
  ownStore? := some {}

def proseLanguage : Definition where
  name := "Prose"
  contexts := [{ name := "Normal", format := "Text" }]
  formats := [{ name := "Text" }]

/-- Two users of a mode, one of whom lets go of it before a third one has it made anew. -/
def proseEvents : List Event :=
  [.redefine { definitions := [("Prose", proseLanguage)] }, .modeForName "Prose" (some "editor"),
    .modeForName "Prose" (some "preview"), .drop "editor", .reload "Prose" (some "printer")]

theorem run_sharesModes_proseEvents :
    ∃ begun manager, bareSession.start = (begun, .ok ()) ∧
      (∀ number ∈ bareSession.held, number < bareSession.nextInstance) ∧
      (((History.mk begun []).run proseEvents).handouts.map fun handout =>
        (handout.name, handout.shared.instanceNumber, handout.reloaded)) =
          [("Prose", 2, true), ("Prose", 1, false), ("Prose", 1, false)] ∧
      ((History.mk begun []).run proseEvents).session.held = [1, 2] ∧
      ((History.mk begun []).run proseEvents).session.manager? = some manager ∧
      ((History.mk begun []).run proseEvents).SharesModes manager := by
  have started : bareSession.start = (bareSession.start.1, .ok ()) := rfl
  have numbered : ∀ number ∈ bareSession.held, number < bareSession.nextInstance :=
    fun number impossible => nomatch impossible
  obtain ⟨manager, managed, shares⟩ := run_sharesModes started numbered proseEvents
  exact ⟨_, manager, started, numbered, by cbv, by cbv, managed, shares⟩

end Session

end SyntaxHighlight
