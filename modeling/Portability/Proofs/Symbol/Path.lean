import Portability.Proofs.Text.Joined
import Portability.Symbol.Name

/-!
# Declaration paths

The canonical name of a symbol spells its *declaration path*: the namespaces and types that contain
it and the symbol itself, from the outside in, each with its type parameters (`canonicalName_eq`).
Where the names in paths have neither dots nor underscores a path can be read off its text, so
symbols with the same canonical name have the same path (`canonicalName_inj`).

Paths do not tell a namespace from a type without type parameters.
-/

namespace Portability

/-- A segment of a declaration path: the name of a namespace or a symbol and, for a type, the names
of its type parameters. -/
structure PathSegment where
  name : String
  typeParameters : List String := []
  deriving DecidableEq, Repr

namespace PathSegment

/-- A segment as canonical names spell it, `Map_K_V`. -/
def text (segment : PathSegment) : String :=
  String.intercalate "_" (segment.name :: segment.typeParameters)

/-- A segment without type parameters is spelled by its name. -/
@[simp] theorem text_mk_nil (name : String) : (PathSegment.mk name []).text = name := by
  rw [text, String.intercalate_singleton]

/-- Whether a character occurs in none of the names of a segment. -/
def Avoids (segment : PathSegment) (c : Char) : Prop :=
  ∀ name ∈ segment.name :: segment.typeParameters, c ∉ name.toList

/-- Decides whether a segment avoids a character, name by name. -/
instance (segment : PathSegment) (c : Char) : Decidable (segment.Avoids c) :=
  inferInstanceAs (Decidable (∀ name ∈ segment.name :: segment.typeParameters, c ∉ name.toList))

variable {segment other : PathSegment} {c : Char}

/-- A character that a segment avoids is not in its text either, unless it is the underscore. -/
theorem Avoids.notMem_text (h : segment.Avoids c) (hc : c ≠ '_') : c ∉ segment.text.toList := by
  intro hmem
  rcases Joined.mem_intercalate hmem with hmem | ⟨name, hname, hmem⟩
  · exact hc (List.mem_singleton.mp hmem)
  · exact h name hname hmem

/-- Segments without underscores are told apart by their texts. -/
theorem text_inj (h : segment.Avoids '_') (hother : other.Avoids '_') :
    segment.text = other.text ↔ segment = other := by
  refine ⟨fun htext => ?_, congrArg text⟩
  have hnames := Joined.intercalate_inj "_" rfl (List.cons_ne_nil _ _)
    (List.cons_ne_nil _ _) h hother htext
  obtain ⟨hname, hparameters⟩ := List.cons.inj hnames
  cases segment
  cases other
  exact (PathSegment.mk.injEq ..).mpr ⟨hname, hparameters⟩

end PathSegment

/-- Where a symbol is declared: the namespaces and types around it from the outside in, and the
symbol itself. -/
abbrev DeclarationPath := List PathSegment

namespace DeclarationPath

/-- A path as canonical names spell it. -/
def text (path : DeclarationPath) : String :=
  Dotted.join (path.map PathSegment.text)

/-- Whether a character occurs in none of the names of a path. -/
def Avoids (path : DeclarationPath) (c : Char) : Prop :=
  ∀ segment ∈ path, segment.Avoids c

variable {path other : DeclarationPath} {c : Char}

/-- A character that a path avoids is not in its text either, unless it is a dot or an
underscore. -/
theorem Avoids.notMem_text (h : Avoids path c) (hdot : c ≠ '.') (hunderscore : c ≠ '_') :
    c ∉ (text path).toList := by
  intro hmem
  rcases Joined.mem_intercalate hmem with hmem | ⟨spelled, hspelled, hmem⟩
  · exact hdot (List.mem_singleton.mp hmem)
  · obtain ⟨segment, hsegment, rfl⟩ := List.mem_map.mp hspelled
    exact (h segment hsegment).notMem_text hunderscore hmem

/-- A path can be read off its text. -/
theorem text_inj (hpath : path ≠ []) (hother : other ≠ [])
    (hdots : Avoids path '.') (hdots' : Avoids other '.')
    (hunderscores : Avoids path '_') (hunderscores' : Avoids other '_') :
    text path = text other ↔ path = other := by
  refine ⟨fun htext => ?_, congrArg text⟩
  have hdotless {path : DeclarationPath} (h : Avoids path '.') :
      ∀ text ∈ path.map PathSegment.text, '.' ∉ text.toList := by
    intro text htext
    obtain ⟨segment, hsegment, rfl⟩ := List.mem_map.mp htext
    exact (h segment hsegment).notMem_text (by decide)
  have htexts := Joined.intercalate_inj "." rfl (by simpa using hpath)
    (by simpa using hother) (hdotless hdots) (hdotless hdots') htext
  clear htext hpath hother hdots hdots'
  induction path generalizing other with
  | nil => exact (List.map_eq_nil_iff.mp htexts.symm).symm
  | cons segment rest ih =>
      cases other with
      | nil => exact absurd htexts (List.cons_ne_nil _ _)
      | cons segment' rest' =>
          obtain ⟨hsegment, hrest⟩ := List.cons.inj htexts
          obtain ⟨hfirst, hfirsts⟩ := List.forall_mem_cons.mp hunderscores
          obtain ⟨hsecond, hseconds⟩ := List.forall_mem_cons.mp hunderscores'
          rw [(PathSegment.text_inj hfirst hsecond).mp hsegment, ih hfirsts hseconds hrest]

end DeclarationPath

namespace SymbolArena

variable {arena : SymbolArena}

/-- The segment of a symbol in declaration paths. A missing symbol has no name. -/
def segment (arena : SymbolArena) (id : SymbolId) : PathSegment :=
  match arena.get? id with
  | some (.type type) => { name := type.name, typeParameters := type.typeParameters }
  | some symbol => { name := symbol.name }
  | none => { name := "" }

/-- The declaration path of a symbol. -/
def declarationPath (arena : SymbolArena) (id : SymbolId) : DeclarationPath :=
  ((id :: arena.containers id).map arena.segment ++
    (arena.namespaceNames (arena.outermostNamespace? id)).map (PathSegment.mk · [])).reverse

/-- A declaration path has at least the segment of the symbol itself. -/
theorem declarationPath_ne_nil (id : SymbolId) : arena.declarationPath id ≠ [] := by
  simp [declarationPath]

/-! ### Canonical names -/

/-- Type parameters are put behind a name with underscores. -/
theorem foldl_typeParameters_eq (name : String) (parameters : List String) :
    parameters.foldl (fun name parameter => name ++ "_" ++ parameter) name =
      String.intercalate "_" (name :: parameters) := by
  induction parameters generalizing name with
  | nil => rw [List.foldl_nil, String.intercalate_singleton]
  | cons first rest ih =>
      rw [List.foldl_cons, ih, String.append_assoc, String.intercalate_cons_append,
        String.intercalate_cons_append, String.intercalate_cons_cons, String.append_assoc]

/-- The own name of a symbol is the text of its segment. -/
theorem ownName_eq (id : SymbolId) : arena.ownName id = (arena.segment id).text := by
  rw [ownName, segment]
  cases arena.get? id with
  | none => rfl
  | some symbol =>
      cases symbol
      case type type => exact foldl_typeParameters_eq type.name type.typeParameters
      all_goals exact (PathSegment.text_mk_nil _).symm

/-- The canonical name of a symbol spells its declaration path. -/
theorem canonicalName_eq {id : SymbolId} (h : (arena.get? id).isSome) :
    arena.canonicalName id = DeclarationPath.text (arena.declarationPath id) := by
  obtain ⟨symbol, hsymbol⟩ := Option.isSome_iff_exists.mp h
  have hname : arena.ownName = PathSegment.text ∘ arena.segment := funext ownName_eq
  have hnamespace : (PathSegment.text ∘ (PathSegment.mk · [])) = fun name => name :=
    funext PathSegment.text_mk_nil
  simp only [canonicalName, canonicalPath, hsymbol, pathSegments, if_true, DeclarationPath.text,
    declarationPath, List.map_reverse, List.map_append, List.map_map, List.map_cons, hname,
    hnamespace, List.map_id', List.nil_append, List.cons_append, Function.comp_apply]

/-! ### Characters in paths -/

/-- The names on a way up are names of namespaces. -/
theorem exists_namespace?_of_mem_namespaceNamesFrom {fuel : Nat} {start : Option NamespaceId}
    {name : String} (h : name ∈ arena.namespaceNamesFrom fuel start) :
    ∃ id ns, arena.namespace? id = some ns ∧ ns.name = name := by
  induction fuel generalizing start with
  | zero => exact absurd h List.not_mem_nil
  | succ fuel ih =>
      cases start with
      | none => exact absurd h List.not_mem_nil
      | some id =>
          rw [namespaceNamesFrom] at h
          cases hns : arena.namespace? id with
          | none =>
              rw [hns] at h
              exact absurd h List.not_mem_nil
          | some ns =>
              rw [hns] at h
              dsimp only at h
              split at h
              · exact absurd h List.not_mem_nil
              · rcases List.mem_cons.mp h with rfl | h
                · exact ⟨id, ns, hns, rfl⟩
                · exact ih h

/-- The containers on a way are its start and containing types. -/
theorem exists_containingType?_of_mem_containersFrom {fuel : Nat} {start : Option SymbolId}
    {container : SymbolId} (h : container ∈ arena.containersFrom fuel start) :
    start = some container ∨ ∃ id, arena.containingType? id = some container := by
  induction fuel generalizing start with
  | zero => exact absurd h List.not_mem_nil
  | succ fuel ih =>
      cases start with
      | none => exact absurd h List.not_mem_nil
      | some id =>
          rcases List.mem_cons.mp h with rfl | h
          · exact .inl rfl
          · exact .inr ((ih h).elim (fun hid => ⟨id, hid⟩) fun hother => hother)

/-- A character that is in no namespace's name, nor in the segments of a symbol and of what is a
containing type of any, is not in the symbol's declaration path. -/
theorem avoids_declarationPath {c : Char}
    (hnamespaces : ∀ id ns, arena.namespace? id = some ns → c ∉ ns.name.toList)
    (hcontainers : ∀ id container, arena.containingType? id = some container →
      (arena.segment container).Avoids c)
    {id : SymbolId} (hid : (arena.segment id).Avoids c) :
    DeclarationPath.Avoids (arena.declarationPath id) c := by
  intro segment hsegment
  rw [declarationPath, List.mem_reverse, List.map_cons, List.mem_append, List.mem_cons] at hsegment
  rcases hsegment with (rfl | hsegment) | hsegment
  · exact hid
  · obtain ⟨container, hcontainer, rfl⟩ := List.mem_map.mp hsegment
    rcases exists_containingType?_of_mem_containersFrom hcontainer with hfirst | ⟨other, hother⟩
    · exact hcontainers id container hfirst
    · exact hcontainers other container hother
  · obtain ⟨name, hname, rfl⟩ := List.mem_map.mp hsegment
    obtain ⟨ns, data, hdata, rfl⟩ := exists_namespace?_of_mem_namespaceNamesFrom hname
    exact List.forall_mem_singleton.mpr (hnamespaces ns data hdata)

/-- **Canonical names identify declarations.** Symbols whose paths have neither dots nor underscores
in their names have the same canonical name if and only if they have the same path. -/
theorem canonicalName_inj {id other : SymbolId} (hid : (arena.get? id).isSome)
    (hother : (arena.get? other).isSome)
    (hdots : DeclarationPath.Avoids (arena.declarationPath id) '.')
    (hdots' : DeclarationPath.Avoids (arena.declarationPath other) '.')
    (hunderscores : DeclarationPath.Avoids (arena.declarationPath id) '_')
    (hunderscores' : DeclarationPath.Avoids (arena.declarationPath other) '_') :
    arena.canonicalName id = arena.canonicalName other ↔
      arena.declarationPath id = arena.declarationPath other := by
  rw [canonicalName_eq hid, canonicalName_eq hother]
  exact DeclarationPath.text_inj (arena.declarationPath_ne_nil id)
    (arena.declarationPath_ne_nil other) hdots hdots' hunderscores hunderscores'

end SymbolArena

end Portability
