import Mathlib.Data.List.DropRight
import Mathlib.Data.List.Infix
import Requirements.Path
import Requirements.Text.Words

/-!
# The paths above a path

What lies above a path is read off its text: each parent has one component less. Above a
relative path this goes on until no component is left, so that its ancestors have the
beginnings of its components (`components_ancestors`). The text of each stands in front of a
slash of the path. Where `..` is no component, they lead to the directories between the place of
the path and where it starts (`find?_trail`).
-/

namespace Requirements

namespace Path

/-- Paths that do not begin at the root. -/
def IsRelative (path : Path) : Prop := path.text.toList.head? ≠ some '/'

instance : DecidablePred IsRelative := fun _ => inferInstanceAs (Decidable (_ ≠ _))

/-- A path whose text stands in front of a slash of another, or the empty path. -/
def IsAbove (above path : Path) : Prop :=
  above.text = "" ∧ path.text ≠ "" ∨ ∃ rest, path.text = above.text ++ "/" ++ rest

/-- What the slashes of a path separate. -/
def segments (path : Path) : List (List Char) := path.text.toList.splitOn '/'

/-- The path that is made of segments. -/
def ofSegments (parts : List (List Char)) : Path := ⟨.ofList (List.intercalate ['/'] parts)⟩

/-- The segments that stand for a component. -/
def substantial (parts : List (List Char)) : List (List Char) :=
  parts.filter fun segment => !isTrivial segment

/-- The components of the relative path that is made of segments. -/
def componentsOf (parts : List (List Char)) : List Component :=
  (if parts.head? = some ['.'] then [.current] else []) ++
    (substantial parts).map Component.ofSegment

variable {path above other : Path} {parts kept dropped : List (List Char)}

namespace IsAbove

theorem text_ne_empty (h : IsAbove above path) : path.text ≠ "" := by
  obtain ⟨-, some⟩ | ⟨rest, text⟩ := h
  · exact some
  · simp [text]

theorem isRelative (h : IsAbove above path) (relative : path.IsRelative) : above.IsRelative := by
  obtain ⟨empty, -⟩ | ⟨rest, text⟩ := h
  · simp [IsRelative, empty]
  · intro root
    apply relative
    rw [text, String.toList_append, String.toList_append, List.append_assoc, List.head?_append,
      root]
    rfl

theorem mem_text {c : Char} (h : IsAbove above path) (member : c ∈ above.text.toList) :
    c ∈ path.text.toList := by
  obtain ⟨empty, -⟩ | ⟨rest, text⟩ := h
  · rw [empty] at member
    cases member
  · rw [text, String.append_assoc, String.toList_append]
    exact List.mem_append_left _ member

theorem length_lt (h : IsAbove above path) : above.text.length < path.text.length := by
  obtain ⟨empty, some⟩ | ⟨rest, text⟩ := h
  · rw [empty, String.length_empty]
    exact Nat.pos_of_ne_zero (mt String.length_eq_zero_iff.1 some)
  · have slash : "/".length = 1 := rfl
    rw [text, String.length_append, String.length_append]
    omega

theorem trans (h : IsAbove above other) (h' : IsAbove other path) : IsAbove above path := by
  obtain ⟨empty, -⟩ | ⟨rest, text⟩ := h
  · exact .inl ⟨empty, h'.text_ne_empty⟩
  · obtain ⟨empty, -⟩ | ⟨rest', text'⟩ := h'
    · simp [empty] at text
    · exact .inr ⟨rest ++ "/" ++ rest', by simp only [text', text, String.append_assoc]⟩

end IsAbove

section Segments

theorem ofSegments_segments (path : Path) : ofSegments path.segments = path := by
  rw [ofSegments, segments, List.intercalate_splitOn, String.ofList_toList]

theorem segments_ofSegments (plain : ∀ segment ∈ parts, '/' ∉ segment) (some : parts ≠ []) :
    (ofSegments parts).segments = parts := by
  rw [ofSegments, segments, String.toList_ofList, List.splitOn_intercalate _ plain some]

theorem segments_append_slash (text rest : String) :
    segments ⟨text ++ "/" ++ rest⟩ = segments ⟨text⟩ ++ segments ⟨rest⟩ := by
  rw [segments, String.toList_append, String.toList_append, List.append_assoc]
  exact List.splitOn_append_cons_self _ _

theorem plain_of_segments_eq (split : path.segments = kept ++ dropped) :
    (∀ segment ∈ kept, '/' ∉ segment) ∧ ∀ segment ∈ dropped, '/' ∉ segment := by
  have plain : ∀ segment ∈ kept ++ dropped, '/' ∉ segment := fun segment member =>
    Text.not_mem_of_mem_splitOn (split ▸ member)
  exact ⟨fun segment member => plain segment (List.mem_append_left _ member),
    fun segment member => plain segment (List.mem_append_right _ member)⟩

/-- The first segments of a path make a path above it. -/
theorem isAbove_ofSegments (split : path.segments = kept ++ dropped) (some : path.text ≠ "")
    (more : dropped ≠ []) : IsAbove (ofSegments kept) path := by
  obtain ⟨plain, plain'⟩ := plain_of_segments_eq split
  by_cases front : kept = []
  · exact .inl ⟨by rw [front]; rfl, some⟩
  · refine .inr ⟨(ofSegments dropped).text, ?_⟩
    have same : path.segments =
        segments ⟨(ofSegments kept).text ++ "/" ++ (ofSegments dropped).text⟩ := by
      rw [segments_append_slash, segments_ofSegments plain front,
        segments_ofSegments plain' more, split]
    rw [← ofSegments_segments path, same, ofSegments_segments]

end Segments

/-- A relative path is no text at all, or its first segment is not empty. -/
theorem IsRelative.ne_empty_cons (relative : path.IsRelative) (segment : List Char) :
    path.segments ≠ [] :: segment :: parts := by
  intro split
  apply relative
  rw [← ofSegments_segments path, split, ofSegments, String.toList_ofList,
    List.intercalate_cons_cons]
  rfl

/-- A relative path begins with the component `.` just if its first segment says so. -/
theorem IsRelative.split_eq (relative : path.IsRelative) :
    path.split = (.current, path.segments.tail) ∧ path.segments.head? = some ['.'] ∨
      path.split = (.relative, path.segments) ∧ path.segments.head? ≠ some ['.'] := by
  unfold split
  split
  · rename_i only
    rw [segments, only]
    exact .inl ⟨rfl, rfl⟩
  · rename_i segment rest split
    exact absurd split (relative.ne_empty_cons segment)
  · rename_i segment rest split
    rw [segments, split]
    exact .inl ⟨rfl, rfl⟩
  · rename_i single rooted current
    refine .inr ⟨rfl, fun dot => ?_⟩
    obtain ⟨rest, split⟩ := List.head?_eq_some_iff.1 dot
    cases rest with
    | nil => exact single split
    | cons segment rest => exact current _ _ split

/-- A relative path has the components of its segments. -/
theorem IsRelative.components_eq (relative : path.IsRelative) :
    path.components = componentsOf path.segments := by
  obtain ⟨split, dot⟩ | ⟨split, dot⟩ := relative.split_eq
  · obtain ⟨rest, segments⟩ := List.head?_eq_some_iff.1 dot
    simp only [components, split, componentsOf, segments]
    rfl
  · simp only [components, split, componentsOf, if_neg dot]
    rfl

/-- The segments of the parent, when the path has a substantial one. -/
def remaining (parts : List (List Char)) : List (List Char) :=
  dropTrivialEnd (dropTrivialEnd parts).dropLast

theorem dropTrivialEnd_append (parts : List (List Char)) :
    ∃ dropped, parts = dropTrivialEnd parts ++ dropped ∧ substantial dropped = [] := by
  refine ⟨parts.rtakeWhile isTrivial, List.rdropWhile_append_rtakeWhile.symm, ?_⟩
  refine List.filter_eq_nil_iff.2 fun segment member => ?_
  simpa using List.mem_rtakeWhile_imp member

theorem substantial_eq_nil (h : dropTrivialEnd parts = []) : substantial parts = [] := by
  obtain ⟨dropped, split, none⟩ := dropTrivialEnd_append parts
  rwa [split, h, List.nil_append]

theorem remaining_append (h : dropTrivialEnd parts ≠ []) :
    ∃ dropped last, parts = remaining parts ++ dropped ∧ substantial dropped = [last] := by
  obtain ⟨tail, split, none⟩ := dropTrivialEnd_append parts
  obtain ⟨more, split', none'⟩ := dropTrivialEnd_append (dropTrivialEnd parts).dropLast
  have last : ¬isTrivial ((dropTrivialEnd parts).getLast h) = true :=
    List.rdropWhile_last_not isTrivial parts h
  refine ⟨more ++ (dropTrivialEnd parts).getLast h :: tail, (dropTrivialEnd parts).getLast h,
    ?_, ?_⟩
  · calc parts = dropTrivialEnd parts ++ tail := split
      _ = (dropTrivialEnd parts).dropLast ++ [(dropTrivialEnd parts).getLast h] ++ tail := by
        rw [List.dropLast_append_getLast h]
      _ = remaining parts ++ more ++ [(dropTrivialEnd parts).getLast h] ++ tail := by
        rw [remaining, ← split']
      _ = _ := by simp
  · rw [substantial, List.filter_append, ← substantial, none', List.filter_cons,
      ← substantial, none]
    simp [last]

theorem componentsOf_append
    (same : (kept ++ dropped).head? = some ['.'] ↔ kept.head? = some ['.']) :
    componentsOf (kept ++ dropped) =
      componentsOf kept ++ (substantial dropped).map Component.ofSegment := by
  rw [componentsOf, if_congr same rfl rfl, componentsOf, substantial, List.filter_append,
    List.map_append, List.append_assoc]
  rfl

/-- The parent of a path is made of its first segments, and they stand for all its components
but the last. -/
structure Shortens (path : Path) (kept : List (List Char)) : Prop where
  parent : path.parent? = some (ofSegments kept)
  segments : ∃ dropped, dropped ≠ [] ∧ path.segments = kept ++ dropped
  components : ∃ last, componentsOf path.segments = componentsOf kept ++ [last]

theorem ne_nil_of_substantial_eq {last : List Char} (h : substantial dropped = [last]) :
    dropped ≠ [] := by
  rintro rfl
  cases h

theorem exists_shortens_of_current {rest : List (List Char)}
    (split : path.split = (.current, rest)) (all : path.segments = ['.'] :: rest) :
    ∃ kept, Shortens path kept := by
  by_cases none : dropTrivialEnd rest = []
  · -- Nothing but the component in front is left, which is never trivial.
    have only : substantial path.segments = [] := by
      rw [all, substantial, List.filter_cons, ← substantial, substantial_eq_nil none]
      rfl
    refine ⟨[], ?_, ⟨path.segments, all ▸ List.cons_ne_nil _ _, rfl⟩, .current, ?_⟩
    · simp only [parent?, split, none]
      rfl
    · rw [componentsOf, only, all]
      rfl
  · obtain ⟨dropped, last, rest_eq, one⟩ := remaining_append none
    have front : path.segments = ['.'] :: remaining rest ++ dropped := by
      rw [all, List.cons_append, ← rest_eq]
    refine ⟨['.'] :: remaining rest, ?_, ⟨dropped, ne_nil_of_substantial_eq one, front⟩,
      .ofSegment last, ?_⟩
    · simp [parent?, split, none]
      rfl
    · rw [front, componentsOf_append Iff.rfl, one]
      rfl

theorem exists_shortens_of_plain (split : path.split = (.relative, path.segments))
    (plain : path.segments.head? ≠ some ['.']) :
    path.parent? = none ∧ componentsOf path.segments = [] ∨ ∃ kept, Shortens path kept := by
  by_cases none : dropTrivialEnd path.segments = []
  · left
    rw [componentsOf, if_neg plain, substantial_eq_nil none]
    simp [parent?, split, none]
  · right
    obtain ⟨dropped, last, all, one⟩ := remaining_append none
    have same : (remaining path.segments ++ dropped).head? = some ['.'] ↔
        (remaining path.segments).head? = some ['.'] := by
      rw [← all]
      refine iff_of_false plain fun dot => plain ?_
      rw [all, List.head?_append, dot]
      rfl
    refine ⟨remaining path.segments, ?_, ⟨dropped, ne_nil_of_substantial_eq one, all⟩,
      .ofSegment last, ?_⟩
    · simp [parent?, split, none]
      rfl
    · conv_lhs => rw [all]
      rw [componentsOf_append same, one]
      rfl

theorem Shortens.cases (h : Shortens path kept) (relative : path.IsRelative) :
    ∃ last, IsAbove (ofSegments kept) path ∧
      path.components = (ofSegments kept).components ++ [last] := by
  obtain ⟨dropped, more, split⟩ := h.segments
  obtain ⟨last, components⟩ := h.components
  rw [← relative.components_eq] at components
  have filled : path.text ≠ "" := by
    intro empty
    obtain rfl : path = ⟨""⟩ := congrArg Path.mk empty
    exact List.append_ne_nil_of_right_ne_nil _ (List.cons_ne_nil last []) components.symm
  have isAbove := isAbove_ofSegments split filled more
  refine ⟨last, isAbove, ?_⟩
  rw [components, (isAbove.isRelative relative).components_eq]
  cases kept with
  | nil => rfl
  | cons segment kept =>
    rw [segments_ofSegments (plain_of_segments_eq split).1 (List.cons_ne_nil _ _)]

/-- The parent of a relative path has its components without the last. -/
theorem IsRelative.parent?_cases (relative : path.IsRelative) :
    path.parent? = none ∧ path.components = [] ∨
      ∃ above last, path.parent? = some above ∧ IsAbove above path ∧
        path.components = above.components ++ [last] := by
  have parent_cases : path.parent? = none ∧ componentsOf path.segments = [] ∨
      ∃ kept, Shortens path kept := by
    obtain ⟨split, dot⟩ | ⟨split, plain⟩ := relative.split_eq
    · obtain ⟨rest, all⟩ := List.head?_eq_some_iff.1 dot
      rw [all, List.tail_cons] at split
      exact .inr (exists_shortens_of_current split all)
    · exact exists_shortens_of_plain split plain
  obtain ⟨none, components⟩ | ⟨kept, shortens⟩ := parent_cases
  · exact .inl ⟨none, relative.components_eq.trans components⟩
  · obtain ⟨last, isAbove, components⟩ := shortens.cases relative
    exact .inr ⟨ofSegments kept, last, shortens.parent, isAbove, components⟩

/-- With more steps than the text has characters, the ancestors of a relative path have all
beginnings of its components, the longest first. -/
theorem IsRelative.components_ancestorsUpTo (relative : path.IsRelative) {fuel : Nat}
    (enough : path.text.length < fuel) :
    (ancestorsUpTo fuel path).map components = path.components.inits.reverse := by
  induction fuel generalizing path with
  | zero => exact absurd enough (Nat.not_lt_zero _)
  | succ fuel ih =>
    obtain ⟨none, components⟩ | ⟨above, last, parent, isAbove, components⟩ :=
      relative.parent?_cases
    · rw [ancestorsUpTo, none, List.map_cons, components]
      rfl
    · have shorter := isAbove.length_lt
      rw [ancestorsUpTo, parent, List.map_cons, ih (isAbove.isRelative relative) (by omega),
        components, List.inits_append]
      simp

/-- The ancestors end only where no component is left. -/
theorem IsRelative.components_ancestors (relative : path.IsRelative) :
    path.ancestors.map components = path.components.inits.reverse :=
  relative.components_ancestorsUpTo (by omega)

/-- The text of every ancestor stands at the beginning of the path. -/
theorem IsRelative.eq_or_isAbove_of_mem_ancestors (relative : path.IsRelative)
    (h : above ∈ path.ancestors) : above = path ∨ IsAbove above path := by
  rw [ancestors] at h
  generalize path.text.length + 2 = fuel at h
  induction fuel generalizing path with
  | zero => cases h
  | succ fuel ih =>
    obtain rfl | higher := List.mem_cons.1 h
    · exact .inl rfl
    · right
      obtain ⟨none, -⟩ | ⟨parent, -, found, isAbove, -⟩ := relative.parent?_cases
      · rw [none] at higher
        cases higher
      · rw [found] at higher
        obtain rfl | further := ih (isAbove.isRelative relative) higher
        · exact isAbove
        · exact further.trans isAbove

section Join

variable {name : String}

theorem join_cases (path : Path) (relative : IsRelative ⟨name⟩) :
    path.text = "" ∧ path.join name = ⟨name⟩ ∨
      (∃ front, path.text = front ++ "/" ∧ path.join name = ⟨front ++ "/" ++ name⟩) ∨
      path.text ≠ "" ∧ path.join name = ⟨path.text ++ "/" ++ name⟩ := by
  rw [join, if_neg relative]
  cases last : path.text.toList.getLast? with
  | none =>
    have empty : path.text.toList = [] := List.getLast?_eq_none_iff.1 last
    exact .inl ⟨String.toList_eq_nil_iff.1 empty, rfl⟩
  | some c =>
    right
    by_cases slash : c = '/'
    · left
      obtain ⟨front, split⟩ := List.getLast?_eq_some_iff.1 last
      have text : path.text = .ofList front ++ "/" := by
        rw [← String.toList_inj, split, slash, String.toList_append, String.toList_ofList]
        rfl
      exact ⟨.ofList front, text, by simp [slash, text]⟩
    · refine .inr ⟨?_, by simp [slash]⟩
      intro empty
      rw [empty] at last
      cases last

/-- Joined below a path, a name takes the place of an empty segment at the end. -/
theorem segments_join (path : Path) (plain : '/' ∉ name.toList) :
    (path.join name).segments = path.segments ++ [name.toList] ∨
      ∃ front, path.segments = front ++ [[]] ∧
        (path.join name).segments = front ++ [name.toList] := by
  have single : segments ⟨name⟩ = [name.toList] := List.splitOn_eq_singleton plain
  have relative : IsRelative ⟨name⟩ := fun root => plain (List.mem_of_head? root)
  obtain ⟨empty, joined⟩ | ⟨front, text, joined⟩ | ⟨-, joined⟩ := path.join_cases relative
  · refine .inr ⟨[], ?_, by rw [joined, single]; rfl⟩
    rw [segments, empty]
    rfl
  · refine .inr ⟨segments ⟨front⟩, ?_, ?_⟩
    · have all := segments_append_slash front ""
      rwa [String.append_empty, ← text] at all
    · rw [joined, segments_append_slash, single]
  · exact .inl (by rw [joined, segments_append_slash, single])

/-- At most a slash comes between a path and what is joined below it. -/
theorem join_eq (path : Path) (below : IsRelative ⟨name⟩) :
    ∃ slash, path.join name = ⟨path.text ++ slash ++ name⟩ ∧
      (slash = "" ∨ slash = "/" ∧ path.text ≠ "") := by
  obtain ⟨empty, joined⟩ | ⟨front, text, joined⟩ | ⟨some, joined⟩ := path.join_cases below
  · exact ⟨"", by rw [joined, empty]; simp, .inl rfl⟩
  · exact ⟨"", by rw [joined, text, String.append_empty], .inl rfl⟩
  · exact ⟨"/", joined, .inr ⟨rfl, some⟩⟩

theorem IsAbove.size_join_le {above : Path} (isAbove : IsAbove above path)
    (below : IsRelative ⟨name⟩) :
    (above.join name).text.utf8ByteSize ≤ (path.join name).text.utf8ByteSize := by
  obtain ⟨slash, joined, short⟩ := above.join_eq below
  obtain ⟨slash', joined', -⟩ := path.join_eq below
  rw [joined, joined']
  simp only [String.utf8ByteSize_append]
  obtain ⟨empty, -⟩ | ⟨rest, text⟩ := isAbove
  · obtain rfl | ⟨-, filled⟩ := short
    · rw [empty, String.utf8ByteSize_empty]
      omega
    · exact absurd empty filled
  · have one : "/".utf8ByteSize = 1 := rfl
    rw [text, String.utf8ByteSize_append, String.utf8ByteSize_append]
    obtain rfl | ⟨rfl, -⟩ := short
    · rw [String.utf8ByteSize_empty]
      omega
    · omega

theorem IsRelative.join (relative : path.IsRelative) (below : IsRelative ⟨name⟩) :
    (path.join name).IsRelative := by
  obtain ⟨slash, joined, none | ⟨one, some⟩⟩ := path.join_eq below
  · rw [IsRelative, joined, none, String.append_empty, String.toList_append, List.head?_append]
    intro root
    cases first : path.text.toList.head? with
    | none => exact below (by simpa [first] using root)
    | some c => exact relative (by simpa [first] using root)
  · intro root
    obtain ⟨c, rest, text⟩ := List.exists_cons_of_ne_nil (mt String.toList_eq_nil_iff.1 some)
    apply relative
    simpa [joined, text] using root

end Join

section Trail

/-- Where one component leads. -/
def Component.follow (place : List String) : Component → List String
  | .root => []
  | .current => place
  | .parent => place.dropLast
  | .name text => place ++ [text]

/-- The places that a path goes through, as they follow from its components, the last first. -/
def trail (cwd : List String) (path : Path) : List (List String) :=
  path.components.inits.reverse.map (·.foldl Component.follow cwd)

theorem placeFrom_eq (cwd : List String) (path : Path) :
    path.placeFrom cwd = path.components.foldl Component.follow cwd := rfl

theorem map_placeFrom_ancestors (relative : path.IsRelative) (cwd : List String) :
    path.ancestors.map (placeFrom cwd) = path.trail cwd := by
  rw [trail, ← relative.components_ancestors, List.map_map]
  rfl

theorem foldl_follow_names (place names : List String) :
    (names.map Component.name).foldl Component.follow place = place ++ names := by
  induction names generalizing place with
  | nil => exact (List.append_nil place).symm
  | cons name names ih =>
    rw [List.map_cons, List.foldl_cons, ih]
    exact List.append_assoc place [name] names

/-- Without the component `..`, a relative path is made of names, but for the component `.` that
may stand in front. -/
theorem IsRelative.exists_names (relative : path.IsRelative) (down : .parent ∉ path.components) :
    ∃ names : List String, path.components = names.map Component.name ∨
      path.components = .current :: names.map Component.name := by
  rw [relative.components_eq, componentsOf] at down ⊢
  have named : (substantial path.segments).map Component.ofSegment =
      ((substantial path.segments).map String.ofList).map Component.name := by
    rw [List.map_map]
    refine List.map_congr_left fun segment member => if_neg fun up => down ?_
    refine List.mem_append_right _ (List.mem_map.2 ⟨segment, member, ?_⟩)
    exact if_pos up
  rw [named]
  refine ⟨(substantial path.segments).map String.ofList, ?_⟩
  split_ifs
  · exact .inr rfl
  · exact .inl rfl

theorem placeFrom_of_names {cwd names : List String}
    (h : path.components = names.map Component.name ∨
      path.components = .current :: names.map Component.name) :
    path.placeFrom cwd = cwd ++ names := by
  rw [placeFrom_eq, ← foldl_follow_names]
  obtain components | components := h
  · rw [components]
  · rw [components]
    rfl

theorem map_foldl_inits_names (cwd names : List String) :
    (names.map Component.name).inits.map (·.foldl Component.follow cwd) =
      names.inits.map (cwd ++ ·) := by
  rw [List.map_inits, List.map_map]
  exact List.map_congr_left fun names _ => foldl_follow_names cwd names

theorem trail_of_names {cwd names : List String} (h : path.components = names.map Component.name) :
    path.trail cwd = (names.inits.map (cwd ++ ·)).reverse := by
  rw [trail, h, List.map_reverse, map_foldl_inits_names]

theorem trail_of_current {cwd names : List String}
    (h : path.components = .current :: names.map Component.name) :
    path.trail cwd = (names.inits.map (cwd ++ ·)).reverse ++ [cwd] := by
  rw [trail, h, List.map_reverse, List.inits_cons, List.map_cons, List.reverse_cons, List.map_map]
  exact congrArg (·.reverse ++ [cwd]) (map_foldl_inits_names cwd names)

theorem exists_inits_eq_concat (place : List String) :
    ∃ higher, place.inits = higher ++ [place] ∧
      ∀ above ∈ higher, above <+: place ∧ above ≠ place := by
  obtain rfl | ⟨front, last, rfl⟩ := List.eq_nil_or_concat' place
  · exact ⟨[], rfl, nofun⟩
  · refine ⟨front.inits, List.inits_append front [last], fun above member => ?_⟩
    have prefixed := (List.mem_inits above front).1 member
    refine ⟨prefixed.trans (List.prefix_append front [last]), ?_⟩
    rintro rfl
    have short : front.length + 1 ≤ front.length := by simpa using prefixed.length_le
    omega

theorem find?_concat_of_mem {α : Type} {test : α → Bool} {items : List α} {item : α}
    (h : item ∈ items) : (items ++ [item]).find? test = items.find? test := by
  rw [List.find?_append]
  cases found : items.find? test with
  | some first => rfl
  | none =>
    rw [Option.none_or, List.find?_cons_of_neg (List.find?_eq_none.1 found item h)]
    rfl

/-- Where no component is `..`, a search along the trail is one through the directories that
hold the place of the path, if nothing above the working directory passes the test. -/
theorem find?_trail {cwd : List String} {test : List String → Bool}
    (relative : path.IsRelative) (down : .parent ∉ path.components)
    (none : ∀ above, above <+: cwd → above ≠ cwd → test above = false) :
    (path.trail cwd).find? test = (path.placeFrom cwd).inits.reverse.find? test := by
  obtain ⟨names, components⟩ := relative.exists_names down
  obtain ⟨higher, cwdInits, strict⟩ := exists_inits_eq_concat cwd
  have outside : higher.reverse.find? test = Option.none := by
    refine List.find?_eq_none.2 fun above member => ?_
    obtain ⟨prefixed, other⟩ := strict above (List.mem_reverse.1 member)
    rw [none above prefixed other]
    exact Bool.false_ne_true
  have inits : (cwd ++ names).inits = higher ++ names.inits.map (cwd ++ ·) := by
    rw [List.inits_append, cwdInits]
    cases names <;> simp
  rw [placeFrom_of_names components, inits, List.reverse_append, List.find?_append, outside,
    Option.or_none]
  obtain components | components := components
  · rw [trail_of_names components]
  · -- The component in front is a second look at the working directory.
    have member : cwd ∈ (names.inits.map (cwd ++ ·)).reverse := by
      refine List.mem_reverse.2 (List.mem_map.2 ⟨[], ?_, List.append_nil cwd⟩)
      exact (List.mem_inits _ _).2 List.nil_prefix
    rw [trail_of_current components, find?_concat_of_mem member]

end Trail

end Path

end Requirements
