import Portability.Proofs.Pass.Accesses
import Portability.Proofs.Program.RootNames
import Portability.Proofs.Tree.Dissolve

/-!
# Dissolved namespaces and known ones

Flattening goes by texts and collecting by the tree of namespaces. A namespace is dissolved if its
name begins with the characters of the root, and known if its path is the root or goes on after it
with a dot. So a dissolved namespace that has a place in the tree is known exactly if a dot follows
the root in its name, or nothing (`known_of_dissolved`). Names qualified by it are shortened then.

Where another character follows, as in `Application` with the root `App`, the namespace is dissolved
and names qualified by it keep the qualifier: `unknown_lookalikes`.
-/

namespace Portability

namespace PassContext

variable {symbols : SymbolArena} {root : String} {start id : NamespaceId}
  {arena : NodeArena} {unit member name : NodeId}
  {externs usings attributeLists members : List NodeId}
  {innerExterns innerUsings innerMembers : List NodeId}
  {flatExterns flatUsings flatLists flatMembers : List NodeId}

/-- **Which dissolved namespaces are known.** Let a namespace among the members of a unit be gone
from the flattened unit, and let its name be the path of a namespace in the tree. It is known if and
only if this path is the root or goes on after it with a dot. If it is, a visit to a qualified name
that goes on after it, and is not known itself, leaves what follows the longest known namespace. If
not, nothing that goes on after it goes on after a known namespace. -/
theorem known_of_dissolved (hbuilt : symbols.IsBuilt) (hroot : root ≠ "")
    (hpieces : ∀ piece ∈ Dotted.pieces root, piece ≠ "")
    (hstart : symbols.namespaceByPath? root = some start)
    (hunit : arena.data? unit = some (.compilationUnit externs usings attributeLists members))
    (hmember : member ∈ members)
    (hdata : arena.data? member =
      some (.namespaceDeclaration name innerExterns innerUsings innerMembers))
    (hflat : (arena.flatten unit root).2.data? (arena.flatten unit root).1 =
      some (.compilationUnit flatExterns flatUsings flatLists flatMembers))
    (hgone : member ∉ flatMembers) (hid : (symbols.namespace? id).isSome)
    (hpath : symbols.namespacePath id = arena.spell name) :
    let known := KnownNamespaces.collect symbols root
    let path := arena.spell name
    (known.contains path ↔ path = root ∨ ∃ rest, path = root ++ "." ++ rest) ∧
    (known.contains path → ∀ context : PassContext, context.namespaces = known →
      ∀ (s : PassState) (reference : NodeId) (segments : List String) (rest : String),
        s.arena.IsChain .name reference segments →
        (∀ segment ∈ segments, Dotted.IsSegment segment) →
        Dotted.join segments = path ++ "." ++ rest → rest ≠ "" →
        known.contains (Dotted.join segments) = false →
        ∀ levels isCallee, ∃ ns more, known.LongestBelow (Dotted.join segments) ns more ∧
          context.visitedText (levels + 1) s reference isCallee = more) ∧
    (known.contains path = false → ∀ rest, known.longestBelow? (path ++ "." ++ rest) = none) := by
  intro known path
  have hnames :=
    KnownNamespaces.mem_names_collect_iff hbuilt.isNamespaceTree hroot hpieces hstart
  have hknown : known.contains path ↔ path = root ∨ ∃ rest, path = root ++ "." ++ rest := by
    rw [KnownNamespaces.contains, List.contains_iff_mem, hnames]
    exact and_iff_right ⟨id, hid, hpath⟩
  refine ⟨hknown, ?_, fun hnot rest => ?_⟩
  · intro hcontains context hcontext s reference segments rest hchain hsegments hjoin hrest hunknown
      levels isCallee
    obtain ⟨ns, more, hlongest⟩ :=
      KnownNamespaces.exists_longestBelow (List.contains_iff_mem.mp hcontains) hrest hjoin
    refine ⟨ns, more, hlongest, ?_⟩
    rw [← hcontext] at hlongest hunknown
    exact visitedText_name hchain hsegments hlongest hunknown levels isCallee
  · have hstarts : Dotted.startsWith path root := by
      rw [NodeArena.data?_flatten hunit, if_pos rfl, NodeArena.flatUnit] at hflat
      obtain ⟨⟩ := Option.some.inj hflat
      have hdissolved := NodeArena.isDissolved_of_notMem hmember hgone
      rwa [NodeArena.isDissolved, hdata] at hdissolved
    refine KnownNamespaces.longestBelow?_eq_none_iff.mpr fun other hother more _ htext => ?_
    -- a text that goes on after the root both by its characters and with a dot makes this one known
    have hbelow : path = root ∨ ∃ between, path = root ++ "." ++ between := by
      rcases ((hnames other).mp hother).2 with rfl | ⟨between, rfl⟩
      · exact Dotted.eq_or_below_of_startsWith hstarts htext
      · have hmore : path ++ "." ++ rest = root ++ "." ++ (between ++ "." ++ more) := by
          rw [htext]
          simp [String.append_assoc]
        exact Dotted.eq_or_below_of_startsWith hstarts hmore
    rw [hknown.mpr hbelow] at hnot
    cases hnot

/-- A unit with the namespaces `App.Models` and `Application`, and two names qualified by them. -/
def lookalikes : NodeArena where
  nodes := #[
    { data := .identifierName "App" },
    { data := .identifierName "Models" },
    { data := .qualifiedName (.ofIndex 0) (.ofIndex 1) },
    { data := .typeDeclaration "class" "A" [] },
    { data := .namespaceDeclaration (.ofIndex 2) [] [] [.ofIndex 3] },
    { data := .identifierName "Application" },
    { data := .typeDeclaration "class" "B" [] },
    { data := .namespaceDeclaration (.ofIndex 5) [] [] [.ofIndex 6] },
    { data := .compilationUnit [] [] [] [.ofIndex 4, .ofIndex 7] },
    { data := .identifierName "A" },
    { data := .qualifiedName (.ofIndex 2) (.ofIndex 9) },
    { data := .identifierName "B" },
    { data := .qualifiedName (.ofIndex 5) (.ofIndex 11) }]

/-- The namespaces of `lookalikes`: `App`, `App.Models` and `Application`. -/
def lookalikeSymbols : SymbolArena :=
  ((SymbolArena.empty.addNamespacePath "App.Models").2.addNamespacePath "Application").2

/-- The namespaces of `lookalikeSymbols` are added one by one. -/
theorem isBuilt_lookalikeSymbols : lookalikeSymbols.IsBuilt :=
  .addNamespacePath "Application" (.addNamespacePath "App.Models" .empty)

/-- What a pass over `lookalikes` goes by. -/
def lookalikeContext : PassContext where
  file := "Models.cs"
  model := .ofProgram { assembly := ⟨0⟩, symbols := lookalikeSymbols } {}
  policy := {}
  namespaces := .collect lookalikeSymbols "App"

/-- `App.Models` is dissolved and known, and `App.Models.A` is shortened. -/
theorem known_lookalikes :
    let known := KnownNamespaces.collect lookalikeSymbols "App"
    lookalikeSymbols.namespaceByPath? "App" = some ⟨1⟩ ∧
      (lookalikes.flatten (.ofIndex 8) "App").2.data? (lookalikes.flatten (.ofIndex 8) "App").1 =
        some (.compilationUnit [] [] [] [.ofIndex 3, .ofIndex 6]) ∧
      lookalikeSymbols.namespacePath ⟨2⟩ = lookalikes.spell (.ofIndex 2) ∧
      known.contains (lookalikes.spell (.ofIndex 2)) ∧
      ∃ ns more, known.LongestBelow "App.Models.A" ns more ∧
        lookalikeContext.visitedText maxDepth { arena := lookalikes } (.ofIndex 10) false =
          more := by
  intro known
  have hstart : lookalikeSymbols.namespaceByPath? "App" = some ⟨1⟩ := by decide +kernel
  have hflat : (lookalikes.flatten (.ofIndex 8) "App").2.data?
      (lookalikes.flatten (.ofIndex 8) "App").1 =
        some (.compilationUnit [] [] [] [.ofIndex 3, .ofIndex 6]) := by decide +kernel
  have hpath : lookalikeSymbols.namespacePath ⟨2⟩ = lookalikes.spell (.ofIndex 2) := by
    decide +kernel
  have hunit : lookalikes.data? (.ofIndex 8) =
      some (.compilationUnit [] [] [] [.ofIndex 4, .ofIndex 7]) := rfl
  have hdata : lookalikes.data? (.ofIndex 4) =
      some (.namespaceDeclaration (.ofIndex 2) [] [] [.ofIndex 3]) := rfl
  obtain ⟨hknown, hshort, -⟩ := known_of_dissolved isBuilt_lookalikeSymbols (by decide)
    (by decide +kernel) hstart hunit List.mem_cons_self hdata hflat (by decide) (by decide +kernel)
    hpath
  have hcontains : known.contains (lookalikes.spell (.ofIndex 2)) :=
    hknown.mpr (.inr ⟨"Models", by decide +kernel⟩)
  have hchain : lookalikes.IsChain .name (.ofIndex 10) ["App", "Models", "A"] :=
    .link rfl (.link rfl (.identifier rfl) rfl) rfl
  exact ⟨hstart, hflat, hpath, hcontains, hshort hcontains lookalikeContext rfl
    { arena := lookalikes } (.ofIndex 10) ["App", "Models", "A"] "A" hchain (by decide +kernel)
    (by decide +kernel) (by decide) (by decide +kernel) 499 false⟩

/-- `Application` is dissolved and not known, and `Application.B` keeps its qualifier. -/
theorem unknown_lookalikes :
    let known := KnownNamespaces.collect lookalikeSymbols "App"
    lookalikeSymbols.IsBuilt ∧ lookalikeSymbols.namespaceByPath? "App" = some ⟨1⟩ ∧
      (∀ piece ∈ Dotted.pieces "App", piece ≠ "") ∧
      lookalikes.data? (.ofIndex 8) =
        some (.compilationUnit [] [] [] [.ofIndex 4, .ofIndex 7]) ∧
      lookalikes.data? (.ofIndex 7) =
        some (.namespaceDeclaration (.ofIndex 5) [] [] [.ofIndex 6]) ∧
      (lookalikes.flatten (.ofIndex 8) "App").2.data? (lookalikes.flatten (.ofIndex 8) "App").1 =
        some (.compilationUnit [] [] [] [.ofIndex 3, .ofIndex 6]) ∧
      lookalikeSymbols.namespacePath ⟨3⟩ = lookalikes.spell (.ofIndex 5) ∧
      known.contains (lookalikes.spell (.ofIndex 5)) = false ∧
      lookalikeContext.visitedText maxDepth { arena := lookalikes } (.ofIndex 12) false =
        "Application.B" :=
  ⟨isBuilt_lookalikeSymbols, by decide +kernel, by decide +kernel, rfl, rfl, by decide +kernel,
    by decide +kernel, by decide +kernel, by decide +kernel⟩

end PassContext

end Portability
