/-
What is left of a reload that fails. Whatever goes wrong, modes, schemas, overrides and styles stay
as they are. The definitions need not: one that was read again is known even if no mode can be made
of it, and a name that is missing makes the manager look through the search path. Nobody can tell
that a reload failed exactly if neither of the two puts another definition under a known name.
-/

import SyntaxHighlight.Manager.Basic
import SyntaxHighlight.Proofs.Manager.Instances
import SyntaxHighlight.Proofs.Manager.Lookup

namespace SyntaxHighlight

namespace Repository

variable {repository before after : Repository} {files : FileTree} {name path : String}
  {current reloaded : Definition}

/-- The file from which the definition with a name comes holds another one now. -/
def IsOutdated (repository : Repository) (files : FileTree) (name : String) : Prop :=
  ∃ current path reloaded, (repository.definition files name).2 = .ok current ∧
    current.file = some path ∧ fromFile? files path = some reloaded ∧ reloaded ≠ current

theorem definition_eq_ok_iff : (repository.definition files name).2 = .ok current ↔
    (repository.definition files name).1.definitions.get? name = some current := by
  have answer := find?_fst repository files name
  unfold definition
  rw [StateT.run]
  generalize find? files name repository = looked at answer ⊢
  obtain ⟨found?, after⟩ := looked
  dsimp only at answer ⊢
  rw [← answer]
  cases found? with
  | none => simp only [reduceCtorEq]
  | some known => simp only [Except.ok.injEq, Option.some.injEq]

/-- Takes in what the file of a definition holds now, in place of what was known under its name. -/
def reread (repository : Repository) (name : String) (reloaded : Definition) : Repository :=
  if reloaded.name = name then repository.take reloaded
  else (repository.take reloaded).forget name

theorem reload_of_held (found : (repository.definition files name).2 = .ok current)
    (file : current.file = some path) (held : fromFile? files path = some reloaded) :
    (repository.reload files name).1 =
      (repository.definition files name).1.reread name reloaded := by
  unfold reload reread
  generalize repository.definition files name = looked at found ⊢
  obtain ⟨before, result⟩ := looked
  cases found
  have loaded := loadFile_eq_ok_iff.mpr ⟨held, @rfl _ (before.take reloaded)⟩
  dsimp only
  rw [file]
  dsimp only
  rw [loaded]

theorem reload_of_unheld
    (unheld : ∀ current path, (repository.definition files name).2 = .ok current →
      current.file = some path → fromFile? files path = none) :
    (repository.reload files name).1 = (repository.definition files name).1 := by
  unfold reload
  cases found : repository.definition files name with
  | mk before result =>
      cases result with
      | error error => rfl
      | ok current =>
          dsimp only
          cases file : current.file with
          | none => rfl
          | some path =>
              dsimp only
              cases loaded : before.loadFile files path with
              | error error => rfl
              | ok result =>
                  have held := (loadFile_eq_ok_iff.mp loaded).1
                  rw [unheld current path (congrArg Prod.snd found) file] at held
                  cases held

theorem exists_of_reload (answered : (repository.reload files name).2 = .ok reloaded) :
    ∃ current, (repository.definition files name).2 = .ok current ∧
      (current.file = none ∧ reloaded = current ∨
        ∃ path, current.file = some path ∧ fromFile? files path = some reloaded) := by
  unfold reload at answered
  generalize repository.definition files name = looked at answered ⊢
  obtain ⟨before, result⟩ := looked
  cases result with
  | error error => cases answered
  | ok current =>
      refine ⟨current, rfl, ?_⟩
      dsimp only at answered
      cases file : current.file with
      | none =>
          rw [file] at answered
          cases answered
          exact Or.inl ⟨rfl, rfl⟩
      | some path =>
          rw [file] at answered
          dsimp only at answered
          cases loaded : before.loadFile files path with
          | error error =>
              rw [loaded] at answered
              cases answered
          | ok result =>
              rw [loaded] at answered
              cases answered
              exact Or.inr ⟨path, rfl, (loadFile_eq_ok_iff.mp loaded).1⟩

/-- A reload takes in what a file holds, or it only looks the name up. -/
theorem reload_cases (repository : Repository) (files : FileTree) (name : String) :
    (repository.reload files name).1 = (repository.definition files name).1 ∨
      ∃ current path reloaded, (repository.definition files name).2 = .ok current ∧
        current.file = some path ∧ fromFile? files path = some reloaded ∧
          (repository.reload files name).1 =
            (repository.definition files name).1.reread name reloaded := by
  by_cases held : ∃ current path reloaded, (repository.definition files name).2 = .ok current ∧
      current.file = some path ∧ fromFile? files path = some reloaded
  · obtain ⟨current, path, reloaded, found, file, held⟩ := held
    exact Or.inr ⟨current, path, reloaded, found, file, held, reload_of_held found file held⟩
  · refine Or.inl (reload_of_unheld ?_)
    intro current path found file
    rw [Option.eq_none_iff_forall_ne_some]
    exact fun reloaded isHeld => held ⟨current, path, reloaded, found, file, isHeld⟩

theorem IsCoherent.definition (coherent : repository.IsCoherent) (files : FileTree)
    (name : String) : (repository.definition files name).1.IsCoherent :=
  definition_keeps IsCoherent.looked name coherent

theorem IsCoherent.reload (coherent : repository.IsCoherent) (files : FileTree) (name : String) :
    (repository.reload files name).1.IsCoherent := by
  have looked := coherent.definition files name
  rcases reload_cases repository files name with
    unread | ⟨current, path, reloaded, found, file, held, read⟩
  · rw [unread]
    exact looked
  · rw [read, reread]
    have taken := looked.take (fault?_of_fromFile? held)
    split
    · exact taken
    · exact taken.forget name

/-- Reading the same definition again changes nothing. -/
theorem reload_mayBecome (coherent : repository.IsCoherent)
    (upToDate : ¬repository.IsOutdated files name) :
    repository.MayBecome files (repository.reload files name).1 := by
  have looked := definition_keeps MayBecome.looked name (Or.inl rfl : repository.MayBecome files _)
  rcases reload_cases repository files name with
    unread | ⟨current, path, reloaded, found, file, held, read⟩
  · rw [unread]
    exact looked
  · have kept := coherent.definition files name
    have unchanged : reloaded = current := by
      by_contra changed
      exact upToDate ⟨current, path, reloaded, found, file, held, changed⟩
    have known := definition_eq_ok_iff.mp found
    have isNamed := kept.get?_name known
    have globsKnown : (repository.definition files name).1.globs.get? name =
        some current.globs := by
      rw [kept.globs_eq, Dictionary.get?_map, known, Option.map_some]
    rw [read, reread, unchanged, if_pos isNamed, take, isNamed, Dictionary.set_of_get? known,
      Dictionary.set_of_get? globsKnown]
    exact looked

/-- A definition that its file does not hold any more is not found there again. -/
theorem lost_looked (file : current.file = some path) (held : fromFile? files path = some reloaded)
    (changed : reloaded ≠ current) (before : Repository)
    (lost : before.definitions.get? name ≠ some current) :
    (before.ensureScanned files).definitions.get? name ≠ some current := by
  rcases ensureScanned_cases before files with same | ⟨-, looked⟩
  · rw [same]
    exact lost
  · rw [looked]
    intro found
    rcases get?_scan found with known | ⟨-, other, again⟩
    · exact lost known
    · -- It can only come from the same file, which holds something else.
      have sameFile := (file_of_fromFile? again).symm.trans file
      cases sameFile
      exact changed (Option.some.inj (held.symm.trans again))

theorem get?_reread (coherent : before.IsCoherent) (name other : String)
    (reloaded : Definition) :
    (before.reread name reloaded).definitions.get? other =
      if reloaded.name = other then some reloaded
      else if name = other then none else before.definitions.get? other := by
  unfold reread
  split
  · rename_i same
    rw [get?_take, same]
    split <;> rfl
  · rename_i renamed
    have taken := Dictionary.nodup_keys_set coherent.nodup reloaded.name reloaded
    rw [forget, Repository.take, Dictionary.get?_erase taken, Dictionary.get?_set]
    split
    · rename_i old
      rw [if_neg fun new => renamed (new.trans old.symm)]
    · rfl

theorem reread_lost (coherent : before.IsCoherent) (changed : reloaded ≠ current) :
    (before.reread name reloaded).definitions.get? name ≠ some current := by
  rw [get?_reread coherent, if_pos rfl]
  split
  · exact fun equal => changed (Option.some.inj equal)
  · exact nofun

/-- What its file does not hold any more does not stand under its name after a reload. -/
theorem reload_lost (coherent : repository.IsCoherent)
    (found : (repository.definition files name).2 = .ok current) (file : current.file = some path)
    (held : fromFile? files path = some reloaded) (changed : reloaded ≠ current) :
    (repository.reload files name).1.definitions.get? name ≠ some current := by
  rw [reload_of_held found file held]
  exact reread_lost (coherent.definition files name) changed

theorem definition_of_known (known : repository.definitions.get? name = some current) :
    (repository.definition files name).2 = .ok current := by
  unfold definition
  rw [StateT.run, find?_of_known known]

end Repository

namespace Manager

/-! ### Managers in use -/

/-- The managers that come about when they are used, and when definitions are loaded, looked up,
read again and made into modes behind their backs. -/
inductive IsReachable : Manager → Prop
  | start (config : Config) (store : OverrideStore) (files : FileTree) (firstInstance : Nat) :
      IsReachable (withStore config store files firstInstance)
  | modeForName {manager : Manager} (reachable : manager.IsReachable) (files : FileTree)
      (held : List Nat) (name : String) : IsReachable (manager.modeForName files held name).1
  | modeForFile {manager : Manager} (reachable : manager.IsReachable) (files : FileTree)
      (held : List Nat) (path : String) : IsReachable (manager.modeForFile files held path).1
  | reload {manager : Manager} (reachable : manager.IsReachable) (files : FileTree)
      (name : String) : IsReachable (manager.reload files name).1
  | addSearchPath {manager : Manager} (reachable : manager.IsReachable) (path : String) :
      IsReachable { manager with repository := manager.repository.addSearchPath path }
  | loadText {manager : Manager} (reachable : manager.IsReachable) {text : String}
      {repository : Repository} {definition : Definition}
      (loaded : manager.repository.loadText text = .ok (repository, definition)) :
      IsReachable { manager with repository }
  | loadFile {manager : Manager} (reachable : manager.IsReachable) {files : FileTree}
      {path : String} {repository : Repository} {definition : Definition}
      (loaded : manager.repository.loadFile files path = .ok (repository, definition)) :
      IsReachable { manager with repository }
  | scan {manager : Manager} (reachable : manager.IsReachable) (files : FileTree) :
      IsReachable { manager with repository := (manager.repository.scan files).1 }
  | definition {manager : Manager} (reachable : manager.IsReachable) (files : FileTree)
      (name : String) :
      IsReachable { manager with repository := (manager.repository.definition files name).1 }
  | findForFile {manager : Manager} (reachable : manager.IsReachable) (files : FileTree)
      (path : String) :
      IsReachable
        { manager with
          repository := ((Repository.findForFile? files path).run manager.repository).2 }
  | reread {manager : Manager} (reachable : manager.IsReachable) (files : FileTree)
      (name : String) :
      IsReachable { manager with repository := (manager.repository.reload files name).1 }
  | compile {manager : Manager} (reachable : manager.IsReachable) (files : FileTree)
      (name : String) (maxDepth : Nat) :
      IsReachable { manager with repository := (manager.repository.compile files name maxDepth).1 }
  /-- Everything else leaves the definitions alone. -/
  | other {manager after : Manager} (reachable : manager.IsReachable)
      (same : after.repository = manager.repository) : IsReachable after

variable {manager after : Manager} {files : FileTree} {name : String}

section Keeps

variable {keeps : Repository → Prop}
  (looked : ∀ before, keeps before → keeps (before.ensureScanned files))

include looked

theorem modeForName_keeps (held : List Nat) (name : String) (kept : keeps manager.repository) :
    keeps (manager.modeForName files held name).1.repository := by
  have compiled := Repository.compile_keeps looked name manager.config.maxDepth kept
  unfold modeForName
  split
  · exact kept
  · split
    · exact kept
    · generalize manager.repository.compile files name manager.config.maxDepth = made at compiled
      obtain ⟨repository, result⟩ := made
      cases result <;> exact compiled

theorem modeForFile_keeps (held : List Nat) (path : String) (kept : keeps manager.repository) :
    keeps (manager.modeForFile files held path).1.repository := by
  have found : keeps ((Repository.findForFile? files path).run manager.repository).2 := by
    rw [StateT.run, Repository.findForFile?_snd]
    exact looked manager.repository kept
  unfold modeForFile
  generalize (Repository.findForFile? files path).run manager.repository = result at found
  obtain ⟨found?, repository⟩ := result
  cases found? with
  | none => exact found
  | some definition =>
      exact @modeForName_keeps { manager with repository } files keeps looked held
        definition.name found

/-- After a definition is read again, a reload only looks up names. -/
theorem reload_keeps (name : String) (kept : keeps (manager.repository.reload files name).1) :
    keeps (manager.reload files name).1.repository := by
  unfold reload
  generalize manager.repository.reload files name = reread at kept
  obtain ⟨repository, result⟩ := reread
  cases result with
  | error error => exact kept
  | ok definition =>
      have compiled := Repository.compile_keeps looked name manager.config.maxDepth kept
      dsimp only at compiled ⊢
      generalize repository.compile files name manager.config.maxDepth = made at compiled
      obtain ⟨later, result⟩ := made
      cases result <;> exact compiled

end Keeps

theorem IsReachable.isCoherent (reachable : manager.IsReachable) :
    manager.repository.IsCoherent := by
  induction reachable with
  | start config store files firstInstance =>
      have searching : ∀ (paths : List String) (repository : Repository),
          repository.IsCoherent → (paths.foldl Repository.addSearchPath repository).IsCoherent := by
        intro paths
        induction paths with
        | nil => exact fun repository coherent => coherent
        | cons path rest ih =>
            exact fun repository coherent =>
              ih (repository.addSearchPath path) (coherent.addSearchPath path)
      have bare := searching config.searchPaths {} Repository.isCoherent_empty
      change (if config.searchPaths.isEmpty then config.searchPaths.foldl .addSearchPath {}
        else ((config.searchPaths.foldl Repository.addSearchPath {}).scan files).1).IsCoherent
      split
      · exact bare
      · exact bare.scan files
  | modeForName _ files held name coherent =>
      exact modeForName_keeps Repository.IsCoherent.looked held name coherent
  | modeForFile _ files held path coherent =>
      exact modeForFile_keeps Repository.IsCoherent.looked held path coherent
  | reload _ files name coherent =>
      exact reload_keeps Repository.IsCoherent.looked name (coherent.reload files name)
  | addSearchPath _ path coherent => exact coherent.addSearchPath path
  | loadText _ loaded coherent =>
      obtain ⟨sound, rfl⟩ := Repository.loadText_eq_ok loaded
      exact coherent.take sound
  | loadFile _ loaded coherent =>
      obtain ⟨held, rfl⟩ := Repository.loadFile_eq_ok_iff.mp loaded
      exact coherent.take (Repository.fault?_of_fromFile? held)
  | scan _ files coherent => exact coherent.scan files
  | definition _ files name coherent => exact coherent.definition files name
  | findForFile _ files path coherent => exact coherent.looked
  | reread _ files name coherent => exact coherent.reload files name
  | compile _ files name maxDepth coherent =>
      exact Repository.compile_keeps Repository.IsCoherent.looked name maxDepth coherent
  | other _ same coherent =>
      rw [same]
      exact coherent

/-! ### What a manager answers -/

inductive Call where
  | definitionForName (name : String)
  | definitionForFile (path : String)
  | modeForName (held : List Nat) (name : String)
  | modeForFile (held : List Nat) (path : String)
  | styles (shared : SharedMode) (schema : String)

inductive Answer where
  | definition (found : Except HighlightError Definition)
  | definitionOfFile (found? : Option Definition)
  | mode (shared : SharedMode)
  | styles (shared : SharedStyles)

def answer (manager : Manager) (files : FileTree) : Call → Manager × Answer
  | .definitionForName name =>
      ({ manager with repository := (manager.repository.definition files name).1 },
        .definition (manager.repository.definition files name).2)
  | .definitionForFile path =>
      ({ manager with
          repository := ((Repository.findForFile? files path).run manager.repository).2 },
        .definitionOfFile ((Repository.findForFile? files path).run manager.repository).1)
  | .modeForName held name => (manager.modeForName files held name).map id .mode
  | .modeForFile held path => (manager.modeForFile files held path).map id .mode
  | .styles shared schema => (manager.styles shared schema).map id .styles

/-- The answers to calls one after the other. -/
def answers (files : FileTree) : Manager → List Call → List Answer
  | _, [] => []
  | manager, call :: rest =>
      (manager.answer files call).2 :: answers files (manager.answer files call).1 rest

/-- Two managers with the same of everything, one of which may have looked through the search path
where the other one has not. -/
structure Agrees (files : FileTree) (base : Repository) (one other : Manager) : Prop where
  same : other = { one with repository := other.repository }
  ofOne : base.MayBecome files one.repository
  ofOther : base.MayBecome files other.repository

variable {base repository : Repository} {one other : Manager}

theorem Agrees.exists_repository (agrees : Agrees files base one other) :
    ∃ repository, other = { one with repository } ∧ base.MayBecome files one.repository ∧
      base.MayBecome files repository :=
  ⟨other.repository, agrees.same, agrees.ofOne, agrees.ofOther⟩

theorem Agrees.of_eq (mayBecome : base.MayBecome files one.repository) (equal : one = other) :
    Agrees files base one other := by
  subst equal
  exact ⟨rfl, mayBecome, mayBecome⟩

theorem Agrees.modeForName (agrees : Agrees files base one other) (steady : base.IsSteady files)
    (coherent : base.IsCoherent) (held : List Nat) (name : String) :
    (one.modeForName files held name).2 = (other.modeForName files held name).2 ∧
      Agrees files base (one.modeForName files held name).1
        (other.modeForName files held name).1 := by
  obtain ⟨repository, rfl, ofOne, ofOther⟩ := agrees.exists_repository
  have live : ({ one with repository } : Manager).liveMode? held name =
    one.liveMode? held name := rfl
  have compiled := steady.compile_snd coherent ofOne ofOther name one.config.maxDepth
  have oneLater :=
    Repository.compile_keeps Repository.MayBecome.looked name one.config.maxDepth ofOne
  have otherLater :=
    Repository.compile_keeps Repository.MayBecome.looked name one.config.maxDepth ofOther
  unfold Manager.modeForName
  rw [live]
  split
  · exact ⟨rfl, rfl, ofOne, ofOther⟩
  · cases one.liveMode? held name with
    | some shared => exact ⟨rfl, rfl, ofOne, ofOther⟩
    | none =>
        dsimp only at compiled oneLater otherLater ⊢
        generalize one.repository.compile files name one.config.maxDepth = first
          at compiled oneLater ⊢
        generalize repository.compile files name one.config.maxDepth = second
          at compiled otherLater ⊢
        obtain ⟨firstLater, result⟩ := first
        obtain ⟨secondLater, result⟩ := second
        cases compiled
        cases result <;> exact ⟨rfl, rfl, oneLater, otherLater⟩

theorem Agrees.modeForFile (agrees : Agrees files base one other) (held : List Nat)
    (path : String) : one.modeForFile files held path = other.modeForFile files held path := by
  obtain ⟨repository, rfl, ofOne, ofOther⟩ := agrees.exists_repository
  have found := Repository.findForFile?_congr
    (ofOne.ensureScanned.trans ofOther.ensureScanned.symm) path
  unfold Manager.modeForFile
  rw [StateT.run, StateT.run, found]

theorem Agrees.styles (agrees : Agrees files base one other) (shared : SharedMode)
    (schema : String) :
    (one.styles shared schema).2 = (other.styles shared schema).2 ∧
      Agrees files base (one.styles shared schema).1 (other.styles shared schema).1 := by
  obtain ⟨repository, rfl, ofOne, ofOther⟩ := agrees.exists_repository
  cases kept : one.cache.get? (shared.stylesKey schema) with
  | some found =>
      have also : ({ one with repository } : Manager).cache.get? (shared.stylesKey schema) =
        some found := kept
      rw [styles_of_cached kept, styles_of_cached also]
      exact ⟨rfl, rfl, ofOne, ofOther⟩
  | none =>
      have also : ({ one with repository } : Manager).cache.get? (shared.stylesKey schema) =
        none := kept
      rw [styles_of_missing kept, styles_of_missing also]
      exact ⟨rfl, rfl, ofOne, ofOther⟩

theorem Agrees.answer (agrees : Agrees files base one other) (steady : base.IsSteady files)
    (coherent : base.IsCoherent) (call : Call) :
    (one.answer files call).2 = (other.answer files call).2 ∧
      Agrees files base (one.answer files call).1 (other.answer files call).1 := by
  cases call with
  | definitionForName name =>
      obtain ⟨repository, rfl, ofOne, ofOther⟩ := agrees.exists_repository
      refine ⟨congrArg Answer.definition ?_, rfl, ?_, ?_⟩
      · rw [steady.definition_snd ofOne, steady.definition_snd ofOther]
      · exact Repository.definition_keeps Repository.MayBecome.looked name ofOne
      · exact Repository.definition_keeps Repository.MayBecome.looked name ofOther
  | definitionForFile path =>
      obtain ⟨repository, rfl, ofOne, ofOther⟩ := agrees.exists_repository
      have found := Repository.findForFile?_congr
        (ofOne.ensureScanned.trans ofOther.ensureScanned.symm) path
      refine ⟨congrArg Answer.definitionOfFile (congrArg Prod.fst found), rfl, ?_, ?_⟩
      · exact ofOne.looked
      · exact ofOther.looked
  | modeForName held name =>
      obtain ⟨same, later⟩ := agrees.modeForName steady coherent held name
      exact ⟨congrArg Answer.mode same, later⟩
  | modeForFile held path =>
      have same := agrees.modeForFile held path
      have later := modeForFile_keeps Repository.MayBecome.looked held path agrees.ofOne
      have managers : (one.modeForFile files held path).1 =
          (other.modeForFile files held path).1 := congrArg Prod.fst same
      exact ⟨congrArg Answer.mode (congrArg Prod.snd same), .of_eq later managers⟩
  | styles shared schema =>
      obtain ⟨same, later⟩ := agrees.styles shared schema
      exact ⟨congrArg Answer.styles same, later⟩

theorem Agrees.answers (agrees : Agrees files base one other) (steady : base.IsSteady files)
    (coherent : base.IsCoherent) (calls : List Call) :
    one.answers files calls = other.answers files calls := by
  induction calls generalizing one other with
  | nil => rfl
  | cons call rest ih =>
      obtain ⟨same, later⟩ := agrees.answer steady coherent call
      exact congrArg₂ List.cons same (ih later)

/-! ### Reloads that fail -/

theorem definition_of_answers
    (same : ∀ calls, one.answers files calls = other.answers files calls) (name : String) :
    (one.repository.definition files name).2 = (other.repository.definition files name).2 :=
  Answer.definition.inj (List.cons.inj (same [.definitionForName name])).1

theorem eq_of_reload_failed {error : HighlightError}
    (failed : manager.reload files name = (after, .error error)) :
    after = { manager with repository := after.repository } := by
  rcases reload_cases manager files name with ⟨_, _, made, _⟩ | ⟨repository, other, same⟩
  · cases made.symm.trans failed
  · cases same.symm.trans failed
    rfl

/-- A definition that its file does not hold any more is not found after a reload. -/
theorem definition_reload_ne (coherent : manager.repository.IsCoherent)
    (outdated : manager.repository.IsOutdated files name) :
    ((manager.reload files name).1.repository.definition files name).2 ≠
      (manager.repository.definition files name).2 := by
  obtain ⟨current, path, reloaded, known, file, held, changed⟩ := outdated
  have looked := @Repository.lost_looked files name path current reloaded file held changed
  have lost := reload_keeps looked name
    (Repository.reload_lost coherent known file held changed)
  intro same
  exact Repository.definition_keeps looked name lost
    (Repository.definition_eq_ok_iff.mp (same.trans known))

/-- Otherwise a reload only looks up names. -/
theorem reload_mayBecome (coherent : manager.repository.IsCoherent)
    (upToDate : ¬manager.repository.IsOutdated files name) :
    manager.repository.MayBecome files (manager.reload files name).1.repository :=
  reload_keeps Repository.MayBecome.looked name (Repository.reload_mayBecome coherent upToDate)

/-- Whoever finds all known definitions again after the search path was looked through has lost
nothing by that. -/
theorem isSteady_of_definitions (looked : after.repository = manager.repository.ensureScanned files)
    (found : ∀ name, (after.repository.definition files name).2 =
      (manager.repository.definition files name).2) : manager.repository.IsSteady files := by
  intro name definition known
  have again := Repository.definition_eq_ok_iff.mp
    ((found name).trans (Repository.definition_of_known known))
  have settled := Repository.definition_keeps Repository.MayBecome.looked name
    (Or.inl looked : Repository.MayBecome files (manager.repository.ensureScanned files) _)
  rw [Repository.MayBecome, Repository.ensureScanned_idem, or_self] at settled
  rw [settled] at again
  exact again

/-- A reload that fails changes nothing but the definitions. All answers are those that there would
have been without it exactly if the definition is that of its file still and if the search path
was not looked through, or looking through it replaces no definition that is known. -/
theorem answers_reload_iff (reachable : manager.IsReachable) {error : HighlightError}
    (failed : manager.reload files name = (after, .error error)) :
    after = { manager with repository := after.repository } ∧
      ((∀ calls, after.answers files calls = manager.answers files calls) ↔
        ¬manager.repository.IsOutdated files name ∧
          (after.repository.scanned = manager.repository.scanned ∨
            manager.repository.IsSteady files)) := by
  have coherent := reachable.isCoherent
  have rest := eq_of_reload_failed failed
  have reloaded : (manager.reload files name).1 = after := congrArg Prod.fst failed
  have mayBecome := @reload_mayBecome manager files name coherent
  rw [reloaded] at mayBecome
  refine ⟨rest, ?_, ?_⟩
  · intro same
    have found := definition_of_answers same
    have upToDate : ¬manager.repository.IsOutdated files name := by
      intro outdated
      have changed := definition_reload_ne coherent outdated
      rw [reloaded] at changed
      exact changed (found name)
    refine ⟨upToDate, ?_⟩
    rcases mayBecome upToDate with unseen | looked
    · rw [unseen]
      exact Or.inl rfl
    · exact Or.inr (isSteady_of_definitions looked found)
  · rintro ⟨upToDate, unseen | steady⟩ calls
    · -- The search path was not looked through, so the definitions are the same.
      have same : after.repository = manager.repository := by
        rcases mayBecome upToDate with same | looked
        · exact same
        · rcases Repository.ensureScanned_cases manager.repository files with
            same | ⟨old, scanned⟩
          · exact looked.trans same
          · rw [looked, scanned, Repository.scan_scanned, old] at unseen
            cases unseen
      rw [rest, same]
    · have agrees : Agrees files manager.repository after manager :=
        ⟨by rw [rest], mayBecome upToDate, Or.inl rfl⟩
      exact agrees.answers steady coherent calls

/-! ### Two reloads that fail -/

/-- The file of the definitions below, with a text of its own. -/
def fileWith (text : String) : FileTree where
  entries := [(["x"], .file (some text))]

def letterLanguage (name : String) : Definition where
  name
  contexts := [{ name := "N", format := "T" }]
  file := some "x"

def letterText (name : String) : String :=
  "name: " ++ name ++ "\ncontexts:\n- name: N\n  attribute: T\n"

theorem read_letterText : ∀ name ∈ ["X", "Y"],
    Definition.read (letterText name) = .ok { letterLanguage name with file := none } := by
  have evaluated : ["X", "Y"].all (fun name =>
      decide ((Definition.read (letterText name)).toOption =
        some { letterLanguage name with file := none })) = true := by
    cbv
  intro name member
  exact eq_ok_of_toOption (of_decide_eq_true (List.all_eq_true.mp evaluated name member))

theorem read_fileWith (text : String) : (fileWith text).read "x" = .ok text := by
  have parts : Path.parts "x" = [.name "x"] := by cbv
  have slash : "x".endsWith "/" = false := by cbv
  have point : "x".endsWith "/." = false := by cbv
  unfold FileTree.read
  rw [parts, slash, point]
  rfl

theorem fromFile?_letterText : ∀ name ∈ ["X", "Y"],
    Repository.fromFile? (fileWith (letterText name)) "x" = some (letterLanguage name) := by
  intro name member
  have evaluated : ["X", "Y"].all (fun name => decide ((letterLanguage name).fault? = none)) =
      true := by
    cbv
  have sound : (letterLanguage name).fault? = none :=
    of_decide_eq_true (List.all_eq_true.mp evaluated name member)
  exact Repository.fromFile?_of_read (read_fileWith _) (read_letterText name member) sound

/-- A manager that knows one definition, which comes from a file. -/
def letterManager : Manager :=
  { withStore {} (.memory {}) {} 0 with
    repository := ({} : Repository).take (letterLanguage "X") }

theorem letterManager_isReachable : letterManager.IsReachable := by
  have held := fromFile?_letterText "X" (by simp)
  exact (IsReachable.start {} (.memory {}) {} 0).loadFile
    (Repository.loadFile_eq_ok_iff.mpr ⟨held, rfl⟩)

theorem answers_reload_iff_missingFile :
    ∃ after error, letterManager.IsReachable ∧
      letterManager.reload {} "X" = (after, .error error) ∧
      ∀ calls, after.answers {} calls = letterManager.answers {} calls := by
  have missing : ({} : FileTree).read "x" = .error .notFound := by
    have parts : Path.parts "x" = [.name "x"] := by cbv
    unfold FileTree.read
    rw [parts]
    rfl
  have unloaded : ∀ repository : Repository,
      repository.loadFile {} "x" = .error (.file .notFound) := by
    intro repository
    unfold Repository.loadFile
    rw [missing]
  have found : letterManager.repository.definition {} "X" =
      (letterManager.repository, .ok (letterLanguage "X")) := rfl
  have failed : letterManager.reload {} "X" = (letterManager, .error (.file .notFound)) := by
    unfold reload Repository.reload
    rw [found]
    simp only [letterLanguage, unloaded]
  refine ⟨letterManager, _, letterManager_isReachable, failed,
    (answers_reload_iff letterManager_isReachable failed).2.mpr ⟨?_, Or.inl rfl⟩⟩
  rintro ⟨current, path, reloaded, known, file, held, -⟩
  rw [found] at known
  cases known
  cases file
  rw [Repository.fromFile?, unloaded] at held
  cases held

/-- A definition was given another name in its file. Reading it again forgets the old name, so the
reload fails, and the mode is plain as soon as nobody holds the old instance. -/
theorem answers_reload_ne_renamed :
    ∃ after error, letterManager.IsReachable ∧
      letterManager.reload (fileWith (letterText "Y")) "X" = (after, .error error) ∧
      after.answers (fileWith (letterText "Y")) [.modeForName [] "X"] ≠
        letterManager.answers (fileWith (letterText "Y")) [.modeForName [] "X"] := by
  have found : letterManager.repository.definition (fileWith (letterText "Y")) "X" =
      (letterManager.repository, .ok (letterLanguage "X")) := rfl
  have loaded := Repository.loadFile_eq_ok_iff.mpr
    ⟨fromFile?_letterText "Y" (by simp),
      @rfl _ (letterManager.repository.take (letterLanguage "Y"))⟩
  have failed : letterManager.reload (fileWith (letterText "Y")) "X" =
      ({ letterManager with repository := ({} : Repository).take (letterLanguage "Y") },
        .error (.definitionNotFound "X")) := by
    unfold reload Repository.reload
    rw [found]
    dsimp only [letterLanguage] at loaded ⊢
    rw [loaded]
    rfl
  refine ⟨_, _, letterManager_isReachable, failed, ?_⟩
  intro same
  have modes := Answer.mode.inj (List.cons.inj same).1
  have plain : (({ letterManager with repository := ({} : Repository).take (letterLanguage "Y") } :
      Manager).modeForName (fileWith (letterText "Y")) [] "X").2.mode.isPlain = true := by
    cbv
  have lit : (letterManager.modeForName (fileWith (letterText "Y")) [] "X").2.mode.isPlain =
      false := by
    cbv
  have equal := congrArg (fun shared => shared.mode.isPlain) modes
  cases plain.symm.trans (equal.trans lit)

end Manager

end SyntaxHighlight
