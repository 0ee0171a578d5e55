/-
The two maps of a repository belong together. Definitions come from texts, from files and from the
search path, they replace one another, and a definition that is read again may have changed its
name. Whatever is asked and whatever goes wrong, the same names have definitions and patterns, each
definition is of use and known under its own name, and the patterns are its own ones. So a lookup
by name cannot answer with a definition of another name, and the name of a file leads to the
definition with the first name of those that claim it.
-/

import SyntaxHighlight.Proofs.Manager.Reload

namespace SyntaxHighlight

/-- A definition has a pattern for the name of a file. -/
def Definition.Claims (definition : Definition) (fileName : String) : Prop :=
  ∃ glob ∈ definition.globs, glob.isMatch fileName.toList = true

namespace Repository

/-! ### Requests -/

/-- What is asked of a repository. The files are those that are there at that time. -/
inductive Request where
  | addSearchPath (path : String)
  | loadText (text : String)
  | loadFile (files : FileTree) (path : String)
  | scan (files : FileTree)
  | definition (files : FileTree) (name : String)
  | findForFile (files : FileTree) (path : String)
  | reload (files : FileTree) (name : String)
  | compile (files : FileTree) (name : String) (maxDepth : Nat)

/-- The repository after a definition was loaded or could not be loaded. -/
def afterLoad (repository : Repository) :
    Except HighlightError (Repository × Definition) → Repository
  | .ok (loaded, _) => loaded
  | .error _ => repository

def perform (repository : Repository) : Request → Repository
  | .addSearchPath path => repository.addSearchPath path
  | .loadText text => repository.afterLoad (repository.loadText text)
  | .loadFile files path => repository.afterLoad (repository.loadFile files path)
  | .scan files => (repository.scan files).1
  | .definition files name => (repository.definition files name).1
  | .findForFile files path => (findForFile? files path repository).2
  | .reload files name => (repository.reload files name).1
  | .compile files name maxDepth => (repository.compile files name maxDepth).1

def run (repository : Repository) (requests : List Request) : Repository :=
  requests.foldl perform repository

variable {repository : Repository} {files : FileTree} {name fileName path : String}
  {definition : Definition}

theorem IsCoherent.afterLoad (coherent : repository.IsCoherent)
    {outcome : Except HighlightError (Repository × Definition)}
    (taken : ∀ loaded definition, outcome = .ok (loaded, definition) →
      definition.fault? = none ∧ loaded = repository.take definition) :
    (repository.afterLoad outcome).IsCoherent := by
  cases outcome with
  | error error => exact coherent
  | ok result =>
      obtain ⟨sound, same⟩ := taken result.1 result.2 rfl
      change result.1.IsCoherent
      rw [same]
      exact coherent.take sound

theorem IsCoherent.perform (coherent : repository.IsCoherent) (request : Request) :
    (repository.perform request).IsCoherent := by
  cases request with
  | addSearchPath path => exact coherent.addSearchPath path
  | loadText text => exact coherent.afterLoad fun _ _ => loadText_eq_ok
  | loadFile files path =>
      refine coherent.afterLoad ?_
      intro loaded definition isLoaded
      obtain ⟨held, same⟩ := loadFile_eq_ok_iff.mp isLoaded
      exact ⟨fault?_of_fromFile? held, same⟩
  | scan files => exact coherent.scan files
  | definition files name => exact coherent.definition files name
  | findForFile files path => exact coherent.looked
  | reload files name => exact coherent.reload files name
  | compile files name maxDepth => exact compile_keeps IsCoherent.looked name maxDepth coherent

theorem IsCoherent.run (coherent : repository.IsCoherent) (requests : List Request) :
    (repository.run requests).IsCoherent := by
  induction requests generalizing repository with
  | nil => exact coherent
  | cons request rest ih => exact ih (coherent.perform request)

/-! ### Requests that succeed -/

/-- A request makes a definition known under its own name, and nothing else changes. -/
def Registers (repository : Repository) (request : Request) (definition : Definition) : Prop :=
  ∀ name, (repository.perform request).definitions.get? name =
    if definition.name = name then some definition else repository.definitions.get? name

theorem registers_loadText {text : String} (parsed : Definition.read text = .ok definition)
    (sound : definition.fault? = none) :
    repository.Registers (.loadText text) { definition with file := none } := by
  intro name
  rw [perform, loadText, loadAs_of_read parsed sound, afterLoad]
  exact get?_take _ _ _

theorem registers_loadFile {text : String} (read : files.read path = .ok text)
    (parsed : Definition.read text = .ok definition) (sound : definition.fault? = none) :
    repository.Registers (.loadFile files path) { definition with file := some path } := by
  intro name
  rw [perform, loadFile_of_read read parsed sound, afterLoad]
  exact get?_take _ _ _

/-- What a reload answers with is known under its own name, and if this is a new one nothing is
known under the old one. -/
theorem IsCoherent.get?_reload (coherent : repository.IsCoherent)
    (reloaded : (repository.reload files name).2 = .ok definition) (other : String) :
    (repository.reload files name).1.definitions.get? other =
      if definition.name = other then some definition
      else if name = other then none
      else (repository.definition files name).1.definitions.get? other := by
  have looked := coherent.definition files name
  obtain ⟨current, found, ⟨unread, rfl⟩ | ⟨path, file, held⟩⟩ := exists_of_reload reloaded
  · have known := definition_eq_ok_iff.mp found
    have onlyLooked : (repository.reload files name).1 = (repository.definition files name).1 := by
      refine reload_of_unheld fun again path foundAgain file => ?_
      cases found.symm.trans foundAgain
      cases unread.symm.trans file
    rw [onlyLooked]
    split
    · rename_i same
      rw [← same, looked.get?_name known, known]
    · rename_i apart
      rw [if_neg fun same => apart ((looked.get?_name known).trans same)]
  · rw [reload_of_held found file held, get?_reread looked]

/-! ### Requests that fail -/

/-- Looking through the search path loads its files one after another. -/
theorem scan_eq_run (repository : Repository) (files : FileTree) :
    (repository.scan files).1 =
      ({ repository with scanned := true } : Repository).run
        ((repository.definitionFiles files).map (.loadFile files)) := by
  unfold scan
  generalize repository.definitionFiles files = paths
  generalize ({ repository with scanned := true } : Repository) = start
  generalize 0 = count
  induction paths generalizing start count with
  | nil => rfl
  | cons path rest ih =>
      rw [List.map_cons, run, List.foldl_cons, List.foldl_cons, ← run]
      dsimp only [perform]
      cases start.loadFile files path with
      | error error => exact ih start count
      | ok result => exact ih result.1 (count + 1)

/-- A reload that fails has only looked the name up. -/
theorem reload_of_error {error : HighlightError}
    (failed : (repository.reload files name).2 = .error error) :
    (repository.reload files name).1 = (repository.definition files name).1 := by
  refine reload_of_unheld ?_
  intro current path found file
  rw [Option.eq_none_iff_forall_ne_some]
  intro reloaded held
  -- Whatever the file holds would have been taken in.
  unfold reload at failed
  generalize repository.definition files name = looked at found failed
  obtain ⟨before, result⟩ := looked
  cases found
  have loaded := loadFile_eq_ok_iff.mpr ⟨held, @rfl _ (before.take reloaded)⟩
  dsimp only at failed
  rw [file] at failed
  dsimp only at failed
  rw [loaded] at failed
  cases failed

theorem perform_reload_of_error {error : HighlightError}
    (failed : (repository.reload files name).2 = .error error) :
    repository.perform (.reload files name) = repository ∨
      repository.perform (.reload files name) = repository.perform (.scan files) := by
  have onlyLooked : repository.perform (.reload files name) =
      (repository.definition files name).1 := reload_of_error failed
  have looked := definition_keeps MayBecome.looked name
    (Or.inl rfl : repository.MayBecome files repository)
  rw [onlyLooked]
  rcases looked with same | same
  · exact Or.inl same
  · rcases ensureScanned_cases repository files with unscanned | ⟨-, scanned⟩
    · exact Or.inl (same.trans unscanned)
    · exact Or.inr (same.trans scanned)

/-! ### Names of files -/

/-- The patterns under a name are those of the definition under that name. -/
theorem IsCoherent.globs_get? (coherent : repository.IsCoherent) (name : String) :
    repository.globs.get? name = (repository.definitions.get? name).map Definition.globs := by
  rw [coherent.globs_eq, Dictionary.get?_map]

theorem IsCoherent.globs_keys (coherent : repository.IsCoherent) :
    repository.globs.keys = repository.definitions.keys := by
  rw [coherent.globs_eq, Dictionary.keys_map]

theorem IsCoherent.mem_claimants (coherent : repository.IsCoherent) :
    name ∈ repository.claimants fileName ↔
      ∃ definition, repository.definitions.get? name = some definition ∧
        definition.Claims fileName := by
  have nodup : repository.globs.keys.Nodup := by
    rw [coherent.globs_keys]
    exact coherent.nodup
  have claimed : name ∈ repository.claimants fileName ↔
      ∃ globs, repository.globs.get? name = some globs ∧
        ∃ glob ∈ globs, glob.isMatch fileName.toList = true := by
    simp only [claimants, List.mem_mergeSort, Dictionary.keys, List.mem_map, List.mem_filter,
      List.any_eq_true, Prod.exists, exists_and_right, exists_eq_right,
      Dictionary.get?_eq_some_iff nodup]
  rw [claimed, coherent.globs_get?]
  constructor
  · rintro ⟨globs, found, claims⟩
    obtain ⟨definition, known, rfl⟩ := Option.map_eq_some_iff.mp found
    exact ⟨definition, known, claims⟩
  · rintro ⟨definition, known, claims⟩
    exact ⟨definition.globs, by rw [known, Option.map_some], claims⟩

theorem claimants_pairwise (repository : Repository) (fileName : String) :
    (repository.claimants fileName).Pairwise (· ≤ ·) := by
  have transitive : ∀ one middle other : String, decide (one ≤ middle) = true →
      decide (middle ≤ other) = true → decide (one ≤ other) = true := by
    intro one middle other
    simp only [decide_eq_true_eq]
    exact le_trans
  have total : ∀ one other : String, (decide (one ≤ other) || decide (other ≤ one)) = true := by
    intro one other
    rw [Bool.or_eq_true, decide_eq_true_eq, decide_eq_true_eq]
    exact le_total one other
  exact (List.pairwise_mergeSort transitive total _).imp of_decide_eq_true

/-- The first of the names that claim the name of a file is the smallest one. -/
theorem head?_claimants :
    (repository.claimants fileName).head? = some name ↔
      name ∈ repository.claimants fileName ∧
        ∀ other ∈ repository.claimants fileName, name ≤ other := by
  have ordered := repository.claimants_pairwise fileName
  generalize repository.claimants fileName = names at ordered
  cases names with
  | nil => simp
  | cons first rest =>
      obtain ⟨least, -⟩ := List.pairwise_cons.mp ordered
      rw [List.head?_cons, Option.some.injEq]
      constructor
      · rintro rfl
        exact ⟨List.mem_cons_self, List.forall_mem_cons.mpr ⟨le_refl first, least⟩⟩
      · rintro ⟨member, smallest⟩
        rcases List.mem_cons.mp member with same | behind
        · exact same.symm
        · exact le_antisymm (least name behind) (smallest first List.mem_cons_self)

/-- A definition answers for the name of a file among all that are known. -/
structure AnswersFor (repository : Repository) (fileName : String) (definition : Definition) :
    Prop where
  known : repository.definitions.get? definition.name = some definition
  claims : definition.Claims fileName
  least : ∀ other, repository.definitions.get? other.name = some other → other.Claims fileName →
    definition.name ≤ other.name

theorem IsCoherent.head?_claimants_bind (coherent : repository.IsCoherent) :
    (repository.claimants fileName).head?.bind repository.definitions.get? = some definition ↔
      repository.AnswersFor fileName definition := by
  rw [Option.bind_eq_some_iff]
  constructor
  · rintro ⟨name, first, known⟩
    obtain ⟨member, smallest⟩ := head?_claimants.mp first
    have isNamed := coherent.get?_name known
    subst isNamed
    obtain ⟨also, alsoKnown, claims⟩ := coherent.mem_claimants.mp member
    cases known.symm.trans alsoKnown
    refine ⟨known, claims, ?_⟩
    intro other otherKnown otherClaims
    exact smallest other.name (coherent.mem_claimants.mpr ⟨other, otherKnown, otherClaims⟩)
  · intro answers
    refine ⟨definition.name, head?_claimants.mpr ⟨?_, ?_⟩, answers.known⟩
    · exact coherent.mem_claimants.mpr ⟨definition, answers.known, answers.claims⟩
    · intro name member
      obtain ⟨other, otherKnown, otherClaims⟩ := coherent.mem_claimants.mp member
      have isNamed := coherent.get?_name otherKnown
      subst isNamed
      exact answers.least other otherKnown otherClaims

theorem IsCoherent.head?_claimants_bind_none (coherent : repository.IsCoherent) :
    (repository.claimants fileName).head?.bind repository.definitions.get? = none ↔
      ∀ other, repository.definitions.get? other.name = some other → ¬other.Claims fileName := by
  constructor
  · intro missing other known claims
    have member := coherent.mem_claimants.mpr ⟨other, known, claims⟩
    cases names : repository.claimants fileName with
    | nil =>
        rw [names] at member
        cases member
    | cons first rest =>
        obtain ⟨definition, firstKnown, -⟩ := coherent.mem_claimants.mp
          (names ▸ List.mem_cons_self : first ∈ repository.claimants fileName)
        rw [names, List.head?_cons, Option.bind_some, firstKnown] at missing
        cases missing
  · intro unclaimed
    rw [Option.eq_none_iff_forall_ne_some]
    intro definition found
    have answers := coherent.head?_claimants_bind.mp found
    exact unclaimed definition answers.known answers.claims

theorem findForFile?_fst_of_nameless (nameless : Path.fileName? path = none) :
    (findForFile? files path repository).1 = none := by
  change (Path.fileName? path).bind _ = none
  rw [nameless, Option.bind_none]

/-- The name of a file leads to the first of the definitions that claim it. -/
theorem findForFile?_fst_of_named (named : Path.fileName? path = some fileName) :
    (findForFile? files path repository).1 =
      ((repository.perform (.findForFile files path)).claimants fileName).head?.bind
        (repository.perform (.findForFile files path)).definitions.get? := by
  change (Path.fileName? path).bind _ = _
  rw [named, Option.bind_some]
  rfl

/-! ### Lookups by name -/

theorem IsCoherent.afterCalls (coherent : repository.IsCoherent) (files : FileTree)
    (names : List String) : (afterCalls (find? files) names repository).IsCoherent := by
  induction names generalizing repository with
  | nil => exact coherent
  | cons name rest ih => exact ih (find?_keeps IsCoherent.looked name coherent)

theorem IsCoherent.find?_name (coherent : repository.IsCoherent)
    (found : (find? files name repository).1 = some definition) : definition.name = name := by
  cases known : repository.definitions.get? name with
  | some other =>
      rw [find?_of_known known] at found
      cases found
      exact coherent.get?_name known
  | none =>
      rw [find?_of_unknown known] at found
      exact (IsCoherent.looked repository coherent).get?_name found

/-! ### Whatever is asked -/

/-- Whatever was asked of a repository, its two maps belong together, and what fails leaves them as
they were: a reload that fails may have looked through the search path, which is nothing but
loading its files. What can be loaded is known under its name afterwards, and nothing else changes.
A name that is known is found at once; otherwise the answer is what the search path has made known
under it. So every definition that a mode is made of is found under its own name, and the name of
a file leads to the definition with the smallest name of those that claim it. -/
theorem requests_keepMapsTogether (requests : List Request) :
    let repository := ({} : Repository).run requests
    (repository.globs.keys = repository.definitions.keys ∧ repository.definitions.keys.Nodup ∧
      ∀ name definition, repository.definitions.get? name = some definition →
        definition.name = name ∧ definition.fault? = none ∧
          repository.globs.get? name = some definition.globs) ∧
    ((∀ text error, repository.loadText text = .error error →
        repository.perform (.loadText text) = repository) ∧
      (∀ files path error, repository.loadFile files path = .error error →
        repository.perform (.loadFile files path) = repository) ∧
      (∀ files, repository.perform (.scan files) =
        ({ repository with scanned := true } : Repository).run
          ((repository.definitionFiles files).map (.loadFile files))) ∧
      ∀ files name error, (repository.reload files name).2 = .error error →
        repository.perform (.reload files name) = repository ∨
          repository.perform (.reload files name) = repository.perform (.scan files)) ∧
    (∀ text definition, Definition.read text = .ok definition → definition.fault? = none →
      repository.Registers (.loadText text) { definition with file := none } ∧
        ∀ files path, files.read path = .ok text →
          repository.Registers (.loadFile files path) { definition with file := some path }) ∧
    (∀ files name definition, (repository.reload files name).2 = .ok definition → ∀ other,
      (repository.perform (.reload files name)).definitions.get? other =
        if definition.name = other then some definition
        else if name = other then none
        else (repository.perform (.definition files name)).definitions.get? other) ∧
    (∀ files names name,
      let looked := afterCalls (find? files) names repository
      (∀ definition, (find? files name looked).1 = some definition → definition.name = name) ∧
      (∀ definition, looked.definitions.get? name = some definition →
        find? files name looked = (some definition, looked)) ∧
      (looked.definitions.get? name = none → find? files name looked =
        ((looked.ensureScanned files).definitions.get? name, looked.ensureScanned files))) ∧
    (∀ files name definition, (repository.definition files name).2 = .ok definition ↔
      (find? files name repository).1 = some definition) ∧
    ∀ files path,
      let after := repository.perform (.findForFile files path)
      let found? := (findForFile? files path repository).1
      (Path.fileName? path = none → found? = none) ∧
      ∀ fileName, Path.fileName? path = some fileName →
        (∀ definition, found? = some definition ↔ after.AnswersFor fileName definition) ∧
        (found? = none ↔ ∀ other, after.definitions.get? other.name = some other →
          ¬other.Claims fileName) := by
  intro repository
  have coherent : repository.IsCoherent := isCoherent_empty.run requests
  clear_value repository
  refine ⟨⟨coherent.globs_keys, coherent.nodup, ?_⟩, ⟨?_, ?_, ?_, ?_⟩, ?_, ?_, ?_, ?_, ?_⟩
  · intro name definition known
    have sound := coherent.sound _ (Dictionary.mem_of_get? known)
    exact ⟨coherent.get?_name known, sound, by rw [coherent.globs_get?, known, Option.map_some]⟩
  · intro text error failed
    rw [perform, failed, afterLoad]
  · intro files path error failed
    rw [perform, failed, afterLoad]
  · exact repository.scan_eq_run
  · intro files name error failed
    exact perform_reload_of_error failed
  · intro text definition parsed sound
    exact ⟨registers_loadText parsed sound, fun files path read =>
      registers_loadFile read parsed sound⟩
  · intro files name definition reloaded
    exact coherent.get?_reload reloaded
  · intro files names name looked
    exact ⟨fun definition found => (coherent.afterCalls files names).find?_name found,
      fun definition => find?_of_known, find?_of_unknown⟩
  · intro files name definition
    rw [definition_eq_ok_iff, find?_fst]
    rfl
  · intro files path after found?
    have settled : after.IsCoherent := IsCoherent.looked repository coherent
    constructor
    · exact findForFile?_fst_of_nameless
    · intro fileName named
      have found : found? = (after.claimants fileName).head?.bind after.definitions.get? :=
        findForFile?_fst_of_named named
      rw [found]
      exact ⟨fun definition => settled.head?_claimants_bind, settled.head?_claimants_bind_none⟩

-- A definition that has got another name in its file leaves nothing under the old one.
example :
    let repository := ({} : Repository).run
      [.loadFile (Manager.fileWith (Manager.letterText "X")) "x",
        .reload (Manager.fileWith (Manager.letterText "Y")) "X"]
    (repository.definitions.keys, repository.globs.keys) = (["Y"], ["Y"]) := by
  cbv

end Repository

end SyntaxHighlight
