import Montage.CommandLine.Session
import Montage.Proofs.Storage.Areas
import Montage.Server.Service

/-!
# Look-up of assets

The server and the commands look assets up in code of their own.  Neither lets a name lead out of
its directory, and for one directory both find the same files and complain alike, so that what is
compiled does not depend on who compiles it.
-/

namespace Montage

/-- What becomes of a name in a directory: it has a path strictly below, or is refused. -/
inductive AssetStore.Confines (base : Path) (filename : String) :
    Except StoreError Path → Prop where
  | inside {path : Path} (inside : path.IsInside base)
      (same : path = Path.resolve base (Path.ofString filename)) : Confines base filename (.ok path)
  | refused (outside : filename = "" ∨
      ¬ (Path.resolve base (Path.ofString filename)).IsInside base) :
      Confines base filename (.error (.rejected (.invalidFilename filename)))

/-- Two look-ups that come to the same file strictly below a directory, or both complain that
there is none where the name leads. -/
inductive LookUpAlike (tree : FileTree) (base : Path) (filename : String) :
    Except StoreError Path → Except ResolutionError Path → Prop where
  | found {path : Path} (same : path = Path.resolve base (Path.ofString filename))
      (inside : path.IsInside base) (present : tree.isFile path = true) :
      LookUpAlike tree base filename (.ok path) (.ok path)
  | absent {path : Path} (same : path = Path.resolve base (Path.ofString filename))
      (missing : path.IsInside base → tree.isFile path = false) :
      LookUpAlike tree base filename (.error (.rejected (.fileNotFound filename)))
        (.error (.rejected (.fileNotFound filename)))

/-- A server and a command that look assets up in one directory, which can be looked up itself. -/
structure Server.Service.Shares (service : Server.Service) (session : CommandLine.Session)
    (directory : Path) : Prop where
  base : service.store.base .uploads = session.locate directory
  tree : service.premises.tree = session.tree
  isDirectory : session.tree.isFile (session.locate directory) = false
  heard : session.tree.refuses (session.locate directory) = false

/-- Plans that differ in nothing but the output. -/
structure RenderPlan.Alike (first second : RenderPlan) : Prop where
  spec : first.spec = second.spec
  timeline : first.timeline = second.timeline
  graph : first.graph = second.graph
  command : ∃ arguments, first.command = arguments ++ [first.output.toString] ∧
    second.command = arguments ++ [second.output.toString]

/-- Compilations with plans that differ in nothing but the output, or that fail alike. -/
inductive Render.CompileAlike :
    Except PlanError RenderPlan → Except PlanError RenderPlan → Prop where
  | planned {first second : RenderPlan} (alike : first.Alike second) :
      CompileAlike (.ok first) (.ok second)
  | failed (reason : PlanError) : CompileAlike (.error reason) (.error reason)

section Confinement

variable {store : AssetStore} {tree : FileTree} {base path : Path} {filename : String}

namespace AssetStore

theorem pathBelow_of_isInside (legal : (Path.ofString filename).holdsNull = false)
    (filled : filename ≠ "") (inside : (Path.resolve base (Path.ofString filename)).IsInside base) :
    pathBelow base filename = .ok (Path.resolve base (Path.ofString filename)) := by
  have resolved := Path.isResolved_resolve base (Path.ofString filename)
  obtain ⟨below, proper⟩ := resolved.isInside_iff.mp inside
  simp [pathBelow, legal, filled, below, proper]

theorem pathBelow_of_not_isInside (legal : (Path.ofString filename).holdsNull = false)
    (outside : filename = "" ∨ ¬ (Path.resolve base (Path.ofString filename)).IsInside base) :
    pathBelow base filename = .error (.rejected (.invalidFilename filename)) := by
  have resolved := Path.isResolved_resolve base (Path.ofString filename)
  rw [resolved.isInside_iff] at outside
  have refused : filename.isEmpty = true ∨ Path.resolve base (Path.ofString filename) = base ∨
      ¬ (Path.resolve base (Path.ofString filename)).isBelow base = true := by
    rcases outside with rfl | outside
    · exact .inl rfl
    · grind
  rw [pathBelow, legal, if_neg Bool.false_ne_true]
  exact if_pos refused

theorem confines_pathBelow (base : Path) (legal : (Path.ofString filename).holdsNull = false) :
    Confines base filename (pathBelow base filename) := by
  by_cases inside : filename ≠ "" ∧ (Path.resolve base (Path.ofString filename)).IsInside base
  · rw [pathBelow_of_isInside legal inside.1 inside.2]
    exact .inside inside.2 rfl
  · have outside : filename = "" ∨
        ¬ (Path.resolve base (Path.ofString filename)).IsInside base := by grind
    rw [pathBelow_of_not_isInside legal outside]
    exact .refused outside

theorem filled_of_isInside (resolved : base.IsResolved)
    (inside : (Path.resolve base (Path.ofString filename)).IsInside base) : filename ≠ "" := by
  rintro rfl
  obtain ⟨-, ⟨first, rest, parts⟩, -⟩ := inside
  have itself : (base.append (Path.ofString "")).parts = base.parts := List.append_nil _
  rw [Path.resolve, itself, Path.collapse_of_not_mem resolved.plain] at parts
  simpa using congrArg List.length parts

theorem locate_of_isInside (legal : (Path.ofString filename).holdsNull = false)
    (same : Path.resolve (store.base .uploads) (Path.ofString filename) = path)
    (inside : path.IsInside (store.base .uploads)) :
    store.locate tree filename =
      if tree.refuses path then .error (.fault .system)
      else if tree.isFile path then .ok path
      else .error (.rejected (.fileNotFound filename)) := by
  subst same
  have filled := filled_of_isInside (Path.isResolved_resolve _ _) inside
  rw [locate, pathIn, pathBelow_of_isInside legal filled inside]

theorem locate_of_not_isInside (legal : (Path.ofString filename).holdsNull = false)
    (outside : ¬ (Path.resolve (store.base .uploads)
      (Path.ofString filename)).IsInside (store.base .uploads)) :
    store.locate tree filename = .error (.rejected (.fileNotFound filename)) := by
  rw [locate, pathIn, pathBelow_of_not_isInside legal (.inr outside)]

end AssetStore

end Confinement

section Agreement

variable {service : Server.Service} {session : CommandLine.Session} {directory base path : Path}
  {filename : String}

theorem CommandLine.Session.assets_of_isInside (legal : (Path.ofString filename).holdsNull = false)
    (same : Path.resolve (session.locate directory) (Path.ofString filename) = path)
    (inside : path.IsInside (session.locate directory)) :
    session.assets directory filename =
      if session.tree.refuses path then .error (.fault .system)
      else if session.tree.isFile path then .ok path
      else .error (.rejected (.fileNotFound filename)) := by
  subst same
  have resolved := Path.isResolved_resolve (session.locate directory) (Path.ofString filename)
  obtain ⟨below, -⟩ := resolved.isInside_iff.mp inside
  simp [assets, legal, below]

/-- The directory itself is no file, and what lies elsewhere is not looked up. -/
theorem Server.Service.Shares.assets_of_not_isInside (shares : service.Shares session directory)
    (legal : (Path.ofString filename).holdsNull = false)
    (outside : ¬ (Path.resolve (session.locate directory)
      (Path.ofString filename)).IsInside (session.locate directory)) :
    session.assets directory filename = .error (.rejected (.fileNotFound filename)) := by
  have resolved := Path.isResolved_resolve (session.locate directory) (Path.ofString filename)
  rw [resolved.isInside_iff, not_and, not_not] at outside
  by_cases below : (Path.resolve (session.locate directory)
      (Path.ofString filename)).isBelow (session.locate directory) = true
  · have itself := outside below
    rw [itself] at below
    simp [CommandLine.Session.assets, legal, itself, below, shares.heard,
      shares.isDirectory]
  · simp [CommandLine.Session.assets, legal, below]

/-- The server and the command find the same, or fail alike. -/
theorem Server.Service.Shares.assets_eq (shares : service.Shares session directory) :
    session.assets directory = service.assets := by
  funext filename
  cases null : (Path.ofString filename).holdsNull with
  | true =>
    simp [CommandLine.Session.assets, Server.Service.assets, AssetStore.locate,
      AssetStore.pathIn, AssetStore.pathBelow, null, Except.mapError]
  | false =>
    by_cases inside : (Path.resolve (session.locate directory)
        (Path.ofString filename)).IsInside (session.locate directory)
    · have inside' := inside
      rw [← shares.base] at inside'
      rw [session.assets_of_isInside null rfl inside, Server.Service.assets,
        AssetStore.locate_of_isInside null rfl inside', shares.base, shares.tree]
      split
      · rfl
      · split <;> rfl
    · have outside := inside
      rw [← shares.base] at outside
      rw [shares.assets_of_not_isInside null inside, Server.Service.assets,
        AssetStore.locate_of_not_isInside null outside]
      rfl

/-- A name comes to the same on both sides unless its look-up is refused. -/
theorem Server.Service.Shares.lookUpAlike_iff (shares : service.Shares session directory)
    (legal : (Path.ofString filename).holdsNull = false)
    (same : Path.resolve (session.locate directory) (Path.ofString filename) = path) :
    LookUpAlike session.tree (session.locate directory) filename
        (service.store.locate service.premises.tree filename)
        (session.assets directory filename) ↔
      (path.IsInside (session.locate directory) → session.tree.refuses path = false) := by
  by_cases inside : path.IsInside (session.locate directory)
  · have inside' := inside
    have same' := same
    rw [← shares.base] at inside' same'
    rw [session.assets_of_isInside legal same inside,
      AssetStore.locate_of_isInside legal same' inside', shares.tree]
    cases refused : session.tree.refuses path with
    | true =>
        refine iff_of_false ?_ fun heard => absurd (heard inside) (by simp)
        rintro ⟨⟩
    | false =>
        refine iff_of_true ?_ fun _ => rfl
        cases present : session.tree.isFile path with
        | true => exact .found same.symm inside present
        | false => exact .absent same.symm fun _ => present
  · have outside := inside
    rw [← same] at inside outside
    rw [← shares.base] at outside
    rw [shares.assets_of_not_isInside legal inside,
      AssetStore.locate_of_not_isInside legal outside]
    exact iff_of_true (.absent rfl fun inside' => absurd inside' inside) fun inside' =>
      absurd (same ▸ inside') inside

end Agreement

section Compilation

variable {config : Config} {spec : RenderSpec}

/-- The name of the output is the last word of a command, and is found nowhere else. -/
theorem Encode.command_eq (encoding : EncodingConfig) (graph : Filter.Graph)
    (quality extension : String) :
    ∃ arguments, ∀ output : Path,
      command encoding graph output quality extension = arguments ++ [output.toString] := by
  refine ⟨["ffmpeg", "-y", "-hide_banner"] ++ graph.inputs.flatMap Filter.MediaInput.arguments ++
    ["-filter_complex", graph.program.render] ++ mapArguments graph ++
    videoArguments encoding quality ++
    (if Text.lowercase extension ∈ streamableExtensions then
      ["-movflags", "+faststart"] else []) ++
    audioArguments encoding graph ++ ["-progress", "pipe:1", "-nostats"], fun output => ?_⟩
  rw [command, List.append_assoc _ ["-progress", "pipe:1", "-nostats"]]
  rfl

namespace Render

theorem plan_alike (config : Config) (spec : RenderSpec) (timeline : ResolvedTimeline)
    (first second : Path) (firstName secondName : String) :
    CompileAlike (plan config first firstName spec timeline)
      (plan config second secondName spec timeline) := by
  unfold plan
  split
  next => exact .failed _
  next graph built =>
    obtain ⟨arguments, ends⟩ :=
      Encode.command_eq config.encoding graph spec.quality spec.extension
    exact .planned ⟨rfl, rfl, rfl, arguments, ends _, ends _⟩

theorem compileAloud_alike (verbosity : Console.Verbosity) (assets : AssetLookup)
    (prober : Prober) (first second : Path) (firstName secondName : String) :
    (compileAloud verbosity config assets prober first firstName spec).1 =
        (compileAloud verbosity config assets prober second secondName spec).1 ∧
      CompileAlike (compileAloud verbosity config assets prober first firstName spec).2
        (compileAloud verbosity config assets prober second secondName spec).2 := by
  unfold compileAloud
  -- The timeline is resolved before an output has a name, so there is one resolution for both.
  obtain ⟨cache, printed, result⟩ := resolveAloud verbosity config assets prober spec
  cases result with
  | error reason => exact ⟨rfl, .failed _⟩
  | ok timeline =>
      have alike := plan_alike config spec timeline first second firstName secondName
      dsimp only
      generalize plan config first firstName spec timeline = planned at alike ⊢
      generalize plan config second secondName spec timeline = planned' at alike ⊢
      cases alike with
      | failed reason => exact ⟨rfl, .failed _⟩
      | planned alike =>
          dsimp only
          rw [alike.graph]
          split
          next => exact ⟨rfl, .planned alike⟩
          next => exact ⟨rfl, .failed _⟩

end Render

end Compilation

section Sharing

namespace Server.Service

/-- No name leads out of its directory.  A server and a command with one directory look assets up
alike: a name without null characters has a file strictly below the directory or there is a
complaint that it has none, unless its look-up is refused, and whatever is compiled differs in
nothing but the output. -/
theorem Shares.lookUp_confined_and_alike {service : Service} {session : CommandLine.Session}
    {directory : Path} (shares : service.Shares session directory) :
    (∀ area filename, '\x00' ∉ filename.toList →
      AssetStore.Confines (service.store.base area) filename
        (service.store.pathIn area filename)) ∧
    (∀ filename, '\x00' ∉ filename.toList →
      (LookUpAlike session.tree (session.locate directory) filename
          (service.store.locate service.premises.tree filename)
          (session.assets directory filename) ↔
        ((Path.resolve (session.locate directory) (Path.ofString filename)).IsInside
            (session.locate directory) →
          session.tree.refuses (Path.resolve (session.locate directory)
            (Path.ofString filename)) = false))) ∧
    ∀ verbosity config prober spec first second firstName secondName,
      let served :=
        Render.compileAloud verbosity config service.assets prober first firstName spec
      let commanded := Render.compileAloud verbosity config (session.assets directory) prober
        second secondName spec
      served.1 = commanded.1 ∧ Render.CompileAlike served.2 commanded.2 := by
  refine ⟨?_, ?_, ?_⟩
  · intro area filename legal
    exact AssetStore.confines_pathBelow _ (Path.holdsNull_ofString legal)
  · intro filename legal
    exact shares.lookUpAlike_iff (Path.holdsNull_ofString legal) rfl
  · intro verbosity config prober spec first second firstName secondName
    rw [shares.assets_eq]
    exact Render.compileAloud_alike verbosity service.assets prober first second firstName
      secondName

def stillTree : FileTree :=
  ⟨[(.ofString "/work/uploads/still.png", "pixels")], ["/work", "/work/uploads"].map .ofString⟩

def sharingService : Service where
  queue := default
  premises := { tree := stillTree }
  store := ⟨.ofString "/work", .ofString "uploads", .ofString "outputs"⟩
  settings := {}
  host := {}

def sharingSession : CommandLine.Session where
  tree := stillTree
  directory := .ofString "/work"
  probe _ := .notStarted
  version _ := .notStarted
  encoder := .started [] [] 0
  download tree _ := (tree, .ok [])

/-- Steps up and repeated slashes are no hindrance, as long as the name leads back. -/
theorem lookUp_roundabout :
    sharingService.Shares sharingSession (.ofString "uploads") ∧
      sharingSession.assets (.ofString "uploads") "..//uploads/./still.png" =
        .ok (.ofString "/work/uploads/still.png") ∧
      AssetStore.Confines (.ofString "/work/uploads") "../outputs"
        (.error (.rejected (.invalidFilename "../outputs"))) ∧
      LookUpAlike stillTree (.ofString "/work/uploads") "..//uploads/./still.png"
        (.ok (.ofString "/work/uploads/still.png")) (.ok (.ofString "/work/uploads/still.png")) := by
  have shares : sharingService.Shares sharingSession (.ofString "uploads") :=
    ⟨rfl, rfl, by decide, by decide⟩
  obtain ⟨confines, alike, -⟩ := shares.lookUp_confined_and_alike
  refine ⟨shares, by decide, confines .uploads "../outputs" (by decide), ?_⟩
  exact (alike "..//uploads/./still.png" (by decide)).mpr fun _ => by decide

def overlongName : String := String.ofList (List.replicate 300 'a')

def overlongPath : Path := ⟨"/", ["work", "uploads", overlongName]⟩

theorem not_mem_overlongName {character : Char} (other : character ≠ 'a') :
    character ∉ overlongName.toList := by
  unfold overlongName
  generalize 300 = length
  simp [other]

theorem resolve_overlongName :
    Path.resolve (.ofString "/work/uploads") (Path.ofString overlongName) = overlongPath := by
  rw [Path.ofString_of_not_mem (not_mem_overlongName (by decide)),
    if_pos ⟨by decide +kernel, by decide +kernel⟩]
  decide +kernel

/-- The look-up of a name that is too long is refused, which is no complaint about the name. -/
theorem not_lookUpAlike_overlongName :
    sharingService.Shares sharingSession (.ofString "uploads") ∧ '\x00' ∉ overlongName.toList ∧
      sharingService.store.locate stillTree overlongName = .error (.fault .system) ∧
      ¬ LookUpAlike stillTree (.ofString "/work/uploads") overlongName
        (sharingService.store.locate stillTree overlongName)
        (sharingSession.assets (.ofString "uploads") overlongName) := by
  have legal := not_mem_overlongName (by decide : '\x00' ≠ 'a')
  have same : Path.resolve (sharingService.store.base .uploads) (Path.ofString overlongName) =
      overlongPath := resolve_overlongName
  have inside : overlongPath.IsInside (sharingService.store.base .uploads) :=
    ⟨rfl, ⟨overlongName, [], rfl⟩, by decide +kernel⟩
  have heard : stillTree.refuses overlongPath = true := by decide +kernel
  have refused : sharingService.store.locate stillTree overlongName =
      .error (.fault .system) := by
    rw [AssetStore.locate_of_isInside (Path.holdsNull_ofString legal) same inside, if_pos heard]
  refine ⟨⟨rfl, rfl, by decide, by decide⟩, legal, refused, ?_⟩
  rw [refused]
  rintro ⟨⟩

end Server.Service

end Sharing

end Montage
