import ModelSchema.Extraction
import ModelSchema.Proofs.Spelling.Union

/-!
# The layout of an annotation

Blanks around a spelling and the length of the runs of blanks in it do not matter: a squeezed
spelling is cut at the same bars, and its members are the squeezed members. So a property is
mapped, made optional and related as its type is spelled, however the annotation is laid out.

## Main definitions

* `Spelling.IsAnnotation` — the texts that annotate a type.
* `Spelling.IsReadAs` — what the property of a signature has from its type.

## Main statements

* `Spelling.Scan.pieces_squeeze`, `Spelling.members_squeeze` — squeezing and cutting commute.
* `Spelling.columnType_squeeze`, `Spelling.columnType_trim` — the column type of a squeezed and of
  a trimmed spelling.
* `Spelling.normalizeType_of_isAnnotation` — the spelling that is taken from an annotation.
* `Spelling.layout_irrelevant` — all of it together, for a property as well.
-/

namespace ModelSchema

namespace Spelling

open Text

/-! ## Squeezed members -/

namespace Scan

variable {s : Scan} {cs first : List Char} {others : List (List Char)}

/-- The first piece starts with a blank just when the text does. -/
theorem head?_any_isBlank (same : s.pieces cs = first :: others) :
    first.head?.any isBlank = cs.head?.any isBlank := by
  cases cs with
  | nil =>
    obtain ⟨rfl, -⟩ := List.cons_eq_cons.1 same
    rfl
  | cons c cs =>
    by_cases bar : c = '|' ∧ s.depth = 0
    · obtain ⟨rfl, zero⟩ := bar
      rw [pieces_cons_bar zero] at same
      obtain ⟨rfl, -⟩ := List.cons_eq_cons.1 same
      rfl
    · obtain ⟨first', others', -, same'⟩ := exists_pieces_cons bar cs
      obtain ⟨rfl, -⟩ := List.cons_eq_cons.1 (same.symm.trans same')
      rfl

/-- Before a blank it does not matter whether an equals sign stands there. -/
theorem pieces_of_head_blank (h : cs.head?.any isBlank) :
    s.pieces cs = (⟨s.depth, false⟩ : Scan).pieces cs := by
  cases cs with
  | nil => cases h
  | cons c cs =>
    have blank : isBlank c = true := by simpa using h
    have bar : c ≠ '|' := of_isBlank (P := fun d => d ≠ '|') (by decide) blank
    have inner : ¬(c = '|' ∧ s.depth = 0) := fun h => bar h.1
    obtain ⟨first, others, same, longer⟩ := exists_pieces_cons inner cs
    rw [longer]
    refine (pieces_cons (fun h => bar h.1) ?_).symm
    rw [next_of_isBlank blank] at same ⊢
    exact same

/-- Squeezing and cutting at bars commute. -/
theorem pieces_squeeze (s : Scan) (cs : List Char) :
    s.pieces (squeeze cs) = (s.pieces cs).map squeeze := by
  induction cs generalizing s with
  | nil => rfl
  | cons c cs ih =>
    by_cases bar : c = '|' ∧ s.depth = 0
    · obtain ⟨rfl, zero⟩ := bar
      rw [squeeze_cons_of_not_blank (by decide), pieces_cons_bar zero, pieces_cons_bar zero, ih]
      rfl
    · obtain ⟨first, others, same, longer⟩ := exists_pieces_cons bar cs
      have squeezed : (s.next c).pieces (squeeze cs) = squeeze first :: others.map squeeze := by
        rw [ih, same, List.map_cons]
      rw [longer, List.map_cons]
      by_cases blank : isBlank c = true
      · rw [squeeze_cons_of_blank blank, squeeze_cons_of_blank blank, head?_any_isBlank same]
        rw [next_of_isBlank blank] at same squeezed
        split
        -- The blank is dropped before another one, which forgets an equals sign just as well.
        · rename_i next
          rw [ih s, pieces_of_head_blank next, same, List.map_cons]
        · refine pieces_cons (by simp) ?_
          rw [next_of_isBlank (by decide)]
          exact squeezed
      · have word : isBlank c = false := by simpa using blank
        rw [squeeze_cons_of_not_blank word, squeeze_cons_of_not_blank word]
        exact pieces_cons bar squeezed

end Scan

variable {cs m : List Char} {ms : List (List Char)}

theorem members_squeeze (cs : List Char) : members (squeeze cs) = (members cs).map squeeze := by
  have kept : ((!·.isEmpty) ∘ squeeze : List Char → Bool) = (!·.isEmpty) := by
    funext p
    cases p with
    | nil => rfl
    | cons c p => simp
  have trimmed : trim ∘ squeeze = squeeze ∘ trim := funext trim_squeeze
  rw [members_eq, members_eq, Scan.pieces_squeeze, List.map_map, trimmed, ← List.map_map,
    List.filter_map, kept]

theorem members_trim (cs : List Char) : members (trim cs) = members cs := by
  obtain ⟨l, r, hl, hr, same⟩ := exists_eq_append_trim cs
  exact (members_append_append hl hr _).symm.trans (congrArg members same.symm)

/-! ## Squeezed spellings -/

theorem isNullish_squeeze (m : List Char) : isNullish (squeeze m) = isNullish m := by
  have null : squeeze m = "null".toList ↔ m = "null".toList := squeeze_eq_iff (by decide)
  have undefined : squeeze m = "undefined".toList ↔ m = "undefined".toList :=
    squeeze_eq_iff (by decide)
  rw [Bool.eq_iff_iff]
  simp only [isNullish, Bool.or_eq_true, beq_iff_eq, null, undefined]

theorem isStringLiteral_squeeze (m : List Char) :
    isStringLiteral (squeeze m) = isStringLiteral m := by
  have quote : ∀ q ∈ quotes, isBlank q = false := by decide
  rw [Bool.eq_iff_iff]
  simp only [isStringLiteral, Bool.and_eq_true, List.any_eq_true, beq_iff_eq, decide_eq_true_eq]
  constructor
  · rintro ⟨two, q, hq, first, last⟩
    rw [head?_squeeze (quote q hq)] at first
    rw [getLast?_squeeze (quote q hq)] at last
    exact ⟨Nat.le_trans two (length_squeeze_le m), q, hq, first, last⟩
  · rintro ⟨two, q, hq, first, last⟩
    refine ⟨?_, q, hq, (head?_squeeze (quote q hq)).2 first, (getLast?_squeeze (quote q hq)).2 last⟩
    cases m with
    | nil => simp at two
    | cons c m =>
      obtain rfl : c = q := by simpa using first
      have behind : squeeze m ≠ [] := squeeze_eq_nil_iff.not.2 (by rintro rfl; simp at two)
      rw [squeeze_cons_of_not_blank (quote c hq), List.length_cons]
      have := List.length_pos_iff.2 behind
      omega

/-- A numeric literal holds no blank. -/
theorem forall_not_blank_of_isNumericLiteral (h : isNumericLiteral m = true) :
    ∀ c ∈ m, isBlank c = false := by
  intro c hc
  rw [← List.takeWhile_append_dropWhile (p := (· == '-')) (l := m), List.mem_append] at hc
  refine hc.elim (fun minus => ?_) (forall_not_blank_of_isDecimal h c)
  obtain rfl : c = '-' := by simpa using List.mem_takeWhile_imp minus
  decide

theorem isNumericLiteral_squeeze (m : List Char) :
    isNumericLiteral (squeeze m) = isNumericLiteral m := by
  rw [Bool.eq_iff_iff]
  constructor
  · intro h
    have word := forall_squeeze_not_blank_iff.1 (forall_not_blank_of_isNumericLiteral h)
    rwa [squeeze_of_forall_not_blank word] at h
  · intro h
    rwa [squeeze_of_forall_not_blank (forall_not_blank_of_isNumericLiteral h)]

theorem unionScalar_map_squeeze (ms : List (List Char)) :
    unionScalar (ms.map squeeze) = unionScalar ms := by
  have string (m : List Char) : squeeze m = "string".toList ↔ m = "string".toList :=
    squeeze_eq_iff (by decide)
  have number (m : List Char) : squeeze m = "number".toList ↔ m = "number".toList :=
    squeeze_eq_iff (by decide)
  simp only [unionScalar, List.any_map, Function.comp_def, Bool.beq_eq_decide_eq, string, number,
    isStringLiteral_squeeze, isNumericLiteral_squeeze]

theorem present_map_squeeze (ms : List (List Char)) :
    present (ms.map squeeze) = (present ms).map squeeze := by
  simp only [present, List.filter_map, Function.comp_def, isNullish_squeeze]

theorem presentType_map_squeeze (h : ∀ m ∈ ms, columnType (squeeze m) = columnType m) :
    presentType (ms.map squeeze) = presentType ms := by
  match ms with
  | [] => rfl
  | [m] => exact h m List.mem_cons_self
  | m :: n :: ms =>
    rw [presentType_of_length_ne_one (by simp), presentType_of_length_ne_one (by simp),
      unionScalar_map_squeeze]

/-- The length of the runs of blanks does not matter for the column type. -/
theorem columnType_squeeze (cs : List Char) : columnType (squeeze cs) = columnType cs := by
  have inner (two : 2 ≤ (members cs).length) : presentType (present ((members cs).map squeeze)) =
      presentType (present (members cs)) := by
    rw [present_map_squeeze]
    refine presentType_map_squeeze fun m hm => ?_
    -- A single member is mapped as if it stood alone, and it is shorter than the union.
    have := length_lt_of_mem_members (List.mem_filter.1 hm).1 two
    exact columnType_squeeze m
  rw [columnType_eq, columnType_eq cs, compact_squeeze, members_squeeze, List.length_map]
  by_cases two : 2 ≤ (members cs).length
  · rw [inner two]
  · simp only [two, if_false]
termination_by cs.length

/-- Blanks around a spelling do not matter for the column type. -/
theorem columnType_trim (cs : List Char) : columnType (trim cs) = columnType cs := by
  rw [columnType_eq, columnType_eq cs, compact_trim, members_trim]

theorem isNullable_squeeze (cs : List Char) : isNullable (squeeze cs) = isNullable cs := by
  simp only [isNullable, members_squeeze, List.length_map, List.any_map, Function.comp_def,
    isNullish_squeeze]

theorem isNullable_trim (cs : List Char) : isNullable (trim cs) = isNullable cs := by
  rw [isNullable, members_trim, isNullable]

/-- A reference is found by what is no blank in its spelling. -/
theorem candidate?_squeeze_trim (suffixes : List String) (cs : List Char) :
    candidate? suffixes (String.ofList (squeeze (trim cs))) =
      candidate? suffixes (String.ofList cs) := by
  simp only [candidate?, String.toList_ofList, compact_squeeze, compact_trim]

theorem columnType_squeeze_trim (cs : List Char) :
    columnType (squeeze (trim cs)) = columnType cs := by
  rw [columnType_squeeze, columnType_trim]

theorem isNullable_squeeze_trim (cs : List Char) :
    isNullable (squeeze (trim cs)) = isNullable cs := by
  rw [isNullable_squeeze, isNullable_trim]

/-! ## Annotations -/

/-- The first character of a text that is no blank. -/
def leading? (cs : List Char) : Option Char := cs.find? (!isBlank ·)

/-- The text is `t`, alone or behind the mark `q`, with any blanks around and between. -/
inductive IsMarked (q : Char) (t : List Char) : List Char → Prop where
  | bare (l r : List Char) (hl : AllBlank l) (hr : AllBlank r) : IsMarked q t (l ++ (t ++ r))
  | marked (l v r : List Char) (hl : AllBlank l) (hv : AllBlank v) (hr : AllBlank r) :
      IsMarked q t (l ++ q :: (v ++ (t ++ r)))

/-- The text annotates the type `t`: it is `t`, `: t` or `: | t`, with any blanks around and
between. The colon may be missing before the bar as well. -/
def IsAnnotation (t a : List Char) : Prop := ∃ u, IsMarked '|' t u ∧ IsMarked ':' u a

variable {l r t u a : List Char} {q : Char}

theorem leading?_of_allBlank (h : AllBlank l) : leading? l = none :=
  List.find?_eq_none.2 fun c hc => by simp [h c hc]

theorem leading?_append_append (hl : AllBlank l) (hr : AllBlank r) (cs : List Char) :
    leading? (l ++ (cs ++ r)) = leading? cs := by
  have left := leading?_of_allBlank hl
  have right := leading?_of_allBlank hr
  simp only [leading?] at left right ⊢
  simp [left, right]

theorem leading?_trimStart (cs : List Char) : leading? (trimStart cs) = leading? cs := by
  obtain ⟨l, hl, same⟩ := exists_eq_append_trimStart cs
  have whole := leading?_append_append hl allBlank_nil (trimStart cs)
  rwa [List.append_nil, ← same, eq_comm] at whole

theorem leading?_cons (h : isBlank q = false) (cs : List Char) : leading? (q :: cs) = some q :=
  List.find?_cons_of_pos (by simp [h])

/-- Only the mark at the front is taken away. -/
theorem trimStartBy_of_leading? (hq : isBlank q = false) (h : leading? cs ≠ some q) :
    trimStartBy (· == q) cs = cs := by
  cases cs with
  | nil => rfl
  | cons c cs =>
    have other : c ≠ q := by
      rintro rfl
      exact h (leading?_cons hq cs)
    exact List.dropWhile_cons_of_neg (by simpa using other)

/-- Blanks at the end stay when a mark is taken away. -/
theorem trimStartBy_append (hq : isBlank q = false) (hr : AllBlank r) (cs : List Char) :
    trimStartBy (· == q) (cs ++ r) = trimStartBy (· == q) cs ++ r := by
  have blanks : trimStartBy (· == q) r = r :=
    trimStartBy_of_leading? hq (by simp [leading?_of_allBlank hr])
  rw [trimStartBy] at blanks ⊢
  rw [List.dropWhile_append, blanks]
  split
  · rename_i empty
    rw [trimStartBy, List.isEmpty_iff.1 empty, List.nil_append]
  · rfl

theorem trim_trimStartBy_trim (hq : isBlank q = false) (cs : List Char) :
    trim (trimStartBy (· == q) (trim cs)) = trim (trimStartBy (· == q) (trimStart cs)) := by
  obtain ⟨r, hr, same⟩ := exists_eq_append_trimEnd (trimStart cs)
  change trimStart cs = trim cs ++ r at same
  rw [same, trimStartBy_append hq hr]
  exact (trim_append_append allBlank_nil hr _).symm

/-- What is left when the mark is taken away. -/
theorem IsMarked.trim_eq (h : IsMarked q t a) (hq : isBlank q = false) (ht : leading? t ≠ some q) :
    trim (trimStartBy (· == q) (trimStart a)) = trim t := by
  cases h with
  | bare l r hl hr =>
    have mark : leading? (trimStart (l ++ (t ++ r))) = leading? t := by
      rw [leading?_trimStart, leading?_append_append hl hr]
    rw [trimStartBy_of_leading? hq (by rwa [mark]), trim_trimStart, trim_append_append hl hr]
  | marked l v r hl hv hr =>
    have behind : trimStartBy (· == q) (v ++ (t ++ r)) = v ++ (t ++ r) :=
      trimStartBy_of_leading? hq (by rwa [leading?_append_append hv hr])
    have front : trimStartBy (· == q) (q :: (v ++ (t ++ r))) = v ++ (t ++ r) :=
      (List.dropWhile_cons_of_pos (by simp)).trans behind
    rw [trimStart_append hl, trimStart_cons, if_neg (by simp [hq]), front, trim_append_append hv hr]

theorem IsMarked.leading?_ne (h : IsMarked q t a) {p : Char} (hq : isBlank q = false)
    (other : q ≠ p) (ht : leading? t ≠ some p) : leading? a ≠ some p := by
  cases h with
  | bare l r hl hr => rwa [leading?_append_append hl hr]
  | marked l v r hl hv hr =>
    have first : leading? (l ++ (q :: (v ++ t) ++ r)) = some q := by
      rw [leading?_append_append hl hr, leading?_cons hq]
    rw [List.cons_append, List.append_assoc] at first
    simpa [first] using other

/-- The spelling that is taken from an annotation. -/
theorem normalizeType_of_isAnnotation (h : IsAnnotation t a) (colon : leading? t ≠ some ':')
    (bar : leading? t ≠ some '|') : normalizeType a = squeeze (trim t) := by
  obtain ⟨u, inner, outer⟩ := h
  have spelled : trim (trimStartBy (· == ':') (trimStart a)) = trim u :=
    outer.trim_eq (by decide) (inner.leading?_ne (by decide) (by decide) colon)
  have left : trim (trimStartBy (· == '|') (trim u)) = trim t := by
    rw [trim_trimStartBy_trim (by decide), inner.trim_eq (by decide) bar]
  rw [normalizeType, spelled, left, collapse_eq_squeeze_trim, trim_trim]

/-- The property of the signature `n` is spelled on one line, and mapped, made optional and related
as the type `t`. -/
structure IsReadAs (n : SyntaxNode) (t : List Char) (p : Property) : Prop where
  rawType_eq : p.rawType = String.ofList (squeeze (trim t))
  columnType_eq : p.columnType = columnType t
  isOptional_eq : p.isOptional = (n.children.any (·.kind == .optionalMark) || isNullable t)
  candidate?_eq : ∀ suffixes,
    candidate? suffixes p.rawType = candidate? suffixes (String.ofList t)

/-- A signature with an annotation gives a property. -/
theorem exists_isReadAs {n name type : SyntaxNode} (h : IsAnnotation t type.text)
    (colon : leading? t ≠ some ':') (bar : leading? t ≠ some '|') (written : ¬ AllBlank t)
    (hname : n.child? .name = some name) (htype : n.child? .type = some type)
    (before : List SyntaxNode) : ∃ p, propertyOf? before n = some p ∧ IsReadAs n t p := by
  have raw := normalizeType_of_isAnnotation h colon bar
  have left : (squeeze (trim t)).isEmpty = false := by
    simpa [trim_eq_nil_iff] using written
  unfold propertyOf?
  simp only [hname, htype, raw, left, Option.bind_eq_bind, Option.bind_some]
  refine ⟨_, rfl, rfl, columnType_squeeze_trim t, ?_, fun suffixes => ?_⟩
  · rw [isNullable_squeeze_trim]
  · exact candidate?_squeeze_trim suffixes t

/-- The layout of an annotation does not matter. A spelling is mapped, admits null and names a model
as it does without blanks around it and with one space in the place of every run of blanks. All
annotations of a type that starts with neither mark give that one spelling, so the property that a
signature gives depends on the type and the optional mark only. -/
theorem layout_irrelevant (t : List Char) :
    columnType (squeeze (trim t)) = columnType t ∧
    isNullable (squeeze (trim t)) = isNullable t ∧
    (∀ suffixes, candidate? suffixes (String.ofList (squeeze (trim t))) =
      candidate? suffixes (String.ofList t)) ∧
    (leading? t ≠ some ':' → leading? t ≠ some '|' →
      (∀ a, IsAnnotation t a → normalizeType a = squeeze (trim t)) ∧
      ∀ before n name type, ¬ AllBlank t → n.child? .name = some name →
        n.child? .type = some type → IsAnnotation t type.text →
        ∃ p, propertyOf? before n = some p ∧ IsReadAs n t p) := by
  refine ⟨columnType_squeeze_trim t, isNullable_squeeze_trim t,
    fun suffixes => candidate?_squeeze_trim suffixes t, fun colon bar => ⟨fun a h => ?_, ?_⟩⟩
  · exact normalizeType_of_isAnnotation h colon bar
  · intro before n name type written hname htype h
    exact exists_isReadAs h colon bar written hname htype before

/-- An annotation on two lines: `manager?:`, and below it `| Manager  | null`. -/
def managerSignature : SyntaxNode :=
  .mk .propertySignature none 0 1 "manager?:\n\t| Manager  | null".toList
    [.mk (.other "property_identifier") (some .name) 0 0 "manager".toList [],
      .mk .optionalMark none 0 0 "?".toList [],
      .mk (.other "type_annotation") (some .type) 0 1 ":\n\t| Manager  | null".toList []]

theorem exists_isReadAs_managerSignature :
    ∃ p, propertyOf? [] managerSignature = some p ∧
      IsReadAs managerSignature "Manager  | null".toList p ∧ p.rawType = "Manager | null" := by
  have annotation : IsAnnotation "Manager  | null".toList ":\n\t| Manager  | null".toList :=
    ⟨"| Manager  | null".toList, .marked [] [' '] [] (by decide) (by decide) (by decide),
      .marked [] ['\n', '\t'] [] (by decide) (by decide) (by decide)⟩
  have ⟨p, given, read⟩ := ((layout_irrelevant "Manager  | null".toList).2.2.2
    (by decide) (by decide)).2 [] managerSignature _ _ (by decide) rfl rfl annotation
  exact ⟨p, given, read, read.rawType_eq.trans (by decide)⟩

end Spelling

end ModelSchema
