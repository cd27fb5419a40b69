import ModelSchema.Proofs.Text.Blank
import ModelSchema.Spelling

/-!
# Members of a union

A scan for the bars of a union knows at every place the bracket depth and whether an equals sign
stands before it. Blanks change neither, so a text between two bars at depth 0 is scanned alone as
it was scanned in the union. Members that are put together with bars come apart again just when no
bar of a member stands at depth 0 and all members but the last return to depth 0, which is true of
the members of every text.

## Main definitions

* `Spelling.Scan` — what a scan knows, with `Scan.run` for what it knows behind a text.
* `Spelling.IsClosed` — a spelling that can stand anywhere in a union.
* `Spelling.Separable` — spellings that come apart again when they are put together.
* `Spelling.IsUnionOf` — the texts that spell a union of given members.

## Main statements

* `Spelling.Scan.exists_pieces_append` — the pieces of two texts put together.
* `Spelling.separable_members` — the members of any text are separable.
* `Spelling.members_eq_iff` — when a union has the members that it was put together from.
* `Spelling.members_joined` — splitting and joining are inverse to each other.
-/

namespace ModelSchema

namespace Spelling

open Text

/-! ## Scanning -/

/-- What a scan for bars knows at a place: the bracket depth, and whether an equals sign stands
before it. -/
structure Scan where
  depth : Int := 0
  afterEqual : Bool := false

namespace Scan

variable {s : Scan} {a b cs : List Char} {c : Char}

/-- What a scan knows at the front of a text. -/
def start : Scan := {}

/-- What a scan knows behind one more character. -/
def next (s : Scan) (c : Char) : Scan := ⟨depthAfter s.depth s.afterEqual c, c == '='⟩

/-- What a scan knows behind a text. -/
def run (s : Scan) (cs : List Char) : Scan := cs.foldl next s

/-- The pieces of a text that is scanned from here on. -/
def pieces (s : Scan) (cs : List Char) : List (List Char) :=
  Spelling.pieces s.depth s.afterEqual cs

/-- No bar of the text stands at depth 0 when it is scanned from here on. -/
def NestsBars (s : Scan) (cs : List Char) : Prop :=
  ∀ front back, cs = front ++ '|' :: back → (s.run front).depth ≠ 0

@[simp] theorem run_nil : s.run [] = s := rfl

@[simp] theorem run_cons : s.run (c :: cs) = (s.next c).run cs := rfl

@[simp] theorem run_append : s.run (a ++ b) = (s.run a).run b := List.foldl_append

@[simp] theorem pieces_nil : s.pieces [] = [[]] := rfl

theorem exists_pieces_eq (s : Scan) (cs : List Char) :
    ∃ first others, s.pieces cs = first :: others :=
  List.exists_cons_of_ne_nil (Spelling.pieces_ne_nil _ _ cs)

/-- The text is cut at a bar at depth 0, and the scan starts anew. -/
theorem pieces_cons_bar (h : s.depth = 0) (cs : List Char) :
    s.pieces ('|' :: cs) = [] :: start.pieces cs := by
  simp [pieces, Spelling.pieces, h, start]

/-- Any other character extends the first piece. -/
theorem pieces_cons {first : List Char} {others : List (List Char)} (h : ¬(c = '|' ∧ s.depth = 0))
    (same : (s.next c).pieces cs = first :: others) :
    s.pieces (c :: cs) = (c :: first) :: others := by
  simp only [pieces, next] at same
  simp [pieces, Spelling.pieces, h, same]

theorem exists_pieces_cons (h : ¬(c = '|' ∧ s.depth = 0)) (cs : List Char) :
    ∃ first others, (s.next c).pieces cs = first :: others ∧
      s.pieces (c :: cs) = (c :: first) :: others := by
  obtain ⟨first, others, same⟩ := exists_pieces_eq (s.next c) cs
  exact ⟨first, others, same, pieces_cons h same⟩

/-- Where two texts meet, the last piece of the one and the first piece of the other are one. -/
theorem exists_pieces_append (s : Scan) (a b : List Char) :
    ∃ front last first back, s.pieces a = front ++ [last] ∧ (s.run a).pieces b = first :: back ∧
      s.pieces (a ++ b) = front ++ (last ++ first) :: back := by
  induction a generalizing s with
  | nil =>
    obtain ⟨first, back, hb⟩ := exists_pieces_eq s b
    exact ⟨[], [], first, back, rfl, hb, hb⟩
  | cons c a ih =>
    by_cases bar : c = '|' ∧ s.depth = 0
    · obtain ⟨rfl, zero⟩ := bar
      have again : s.next '|' = start := by
        simp [next, start, depthAfter, isOpening, isClosing, zero]
      obtain ⟨front, last, first, back, ha, hb, hab⟩ := ih start
      refine ⟨[] :: front, last, first, back, ?_, by rw [run_cons, again, hb], ?_⟩
      · rw [pieces_cons_bar zero, ha, List.cons_append]
      · rw [List.cons_append, pieces_cons_bar zero, hab, List.cons_append]
    · obtain ⟨front, last, first, back, ha, hb, hab⟩ := ih (s.next c)
      obtain ⟨p, ps, hp, hcp⟩ := exists_pieces_cons bar a
      obtain ⟨q, qs, hq, hcq⟩ := exists_pieces_cons bar (a ++ b)
      rw [ha] at hp
      rw [hab] at hq
      cases front with
      | nil =>
        obtain ⟨rfl, rfl⟩ := List.cons_eq_cons.1 hp
        obtain ⟨rfl, rfl⟩ := List.cons_eq_cons.1 hq
        exact ⟨[], c :: last, first, back, hcp, hb, hcq⟩
      | cons piece front =>
        obtain ⟨rfl, rfl⟩ := List.cons_eq_cons.1 hp
        obtain ⟨rfl, rfl⟩ := List.cons_eq_cons.1 hq
        exact ⟨(c :: piece) :: front, last, first, back, hcp, hb, hcq⟩

theorem nestsBars_nil : s.NestsBars [] := by
  simp [NestsBars]

theorem nestsBars_cons_iff :
    s.NestsBars (c :: cs) ↔ ¬(c = '|' ∧ s.depth = 0) ∧ (s.next c).NestsBars cs := by
  constructor
  · intro h
    refine ⟨fun ⟨bar, zero⟩ => h [] cs (by rw [bar]; rfl) zero, fun front back same => ?_⟩
    exact h (c :: front) back (by rw [same]; rfl)
  · rintro ⟨first, rest⟩ (_ | ⟨d, front⟩) back same
    · exact fun zero => first ⟨(List.cons_eq_cons.1 same).1, zero⟩
    · obtain ⟨rfl, behind⟩ := List.cons_eq_cons.1 same
      exact rest front back behind

theorem nestsBars_append_iff : s.NestsBars (a ++ b) ↔ s.NestsBars a ∧ (s.run a).NestsBars b := by
  induction a generalizing s with
  | nil => simp [nestsBars_nil]
  | cons c a ih =>
    rw [List.cons_append, nestsBars_cons_iff, ih, nestsBars_cons_iff, and_assoc, run_cons]

theorem nestsBars_of_not_mem (h : '|' ∉ cs) : s.NestsBars cs := by
  rintro front back rfl
  simp at h

/-- A text is a single piece just when no bar of it stands at depth 0. -/
theorem pieces_eq_singleton_iff : s.pieces cs = [cs] ↔ s.NestsBars cs := by
  induction cs generalizing s with
  | nil => simp [nestsBars_nil]
  | cons c cs ih =>
    rw [nestsBars_cons_iff]
    by_cases bar : c = '|' ∧ s.depth = 0
    · obtain ⟨rfl, zero⟩ := bar
      simp [pieces_cons_bar zero, zero]
    · obtain ⟨first, others, same, longer⟩ := exists_pieces_cons bar cs
      rw [longer, ← ih, same]
      simp [bar]

/-- A union falls apart at a bar at depth 0. -/
theorem pieces_append_bar (h : (s.run a).depth = 0) (b : List Char) :
    s.pieces (a ++ '|' :: b) = s.pieces a ++ start.pieces b := by
  obtain ⟨front, last, first, back, ha, hb, hab⟩ := exists_pieces_append s a ('|' :: b)
  rw [pieces_cons_bar h] at hb
  obtain ⟨rfl, rfl⟩ := List.cons_eq_cons.1 hb
  rw [hab, ha, List.append_nil, List.append_assoc, List.singleton_append]

/-! ### Plain characters -/

variable {l r : List Char}

/-- The character opens no bracket and closes none. -/
def IsPlain (c : Char) : Prop := isOpening c = false ∧ isClosing c = false

instance (c : Char) : Decidable (IsPlain c) := inferInstanceAs (Decidable (_ ∧ _))

theorem depth_next_of_isPlain (h : IsPlain c) (s : Scan) : (s.next c).depth = s.depth := by
  simp [next, depthAfter, h.1, h.2]

theorem depth_run_of_forall_isPlain (h : ∀ c ∈ cs, IsPlain c) (s : Scan) :
    (s.run cs).depth = s.depth := by
  induction cs generalizing s with
  | nil => rfl
  | cons c cs ih =>
    obtain ⟨plain, others⟩ := List.forall_mem_cons.1 h
    rw [run_cons, ih others, depth_next_of_isPlain plain]

theorem isPlain_of_isBlank (h : isBlank c = true) : IsPlain c := of_isBlank (by decide) h

/-- A blank changes no depth and is no equals sign. -/
theorem next_of_isBlank (h : isBlank c = true) (s : Scan) : s.next c = ⟨s.depth, false⟩ := by
  have plain := depth_next_of_isPlain (isPlain_of_isBlank h) s
  have other : c ≠ '=' := of_isBlank (P := fun d => d ≠ '=') (by decide) h
  simpa [next, other] using plain

theorem depth_run_of_allBlank (h : AllBlank l) (s : Scan) : (s.run l).depth = s.depth :=
  depth_run_of_forall_isPlain (fun c hc => isPlain_of_isBlank (h c hc)) s

theorem run_start_of_allBlank (h : AllBlank l) : start.run l = start := by
  induction l with
  | nil => rfl
  | cons c l ih =>
    have ⟨blank, rest⟩ := allBlank_cons_iff.1 h
    rw [run_cons, next_of_isBlank blank]
    exact ih rest

theorem nestsBars_of_allBlank (h : AllBlank l) : s.NestsBars l :=
  nestsBars_of_not_mem (h.not_mem (by decide))

/-- Blanks around a text do not reach its depth. -/
theorem depth_run_start_append (hl : AllBlank l) (hr : AllBlank r) (cs : List Char) :
    (start.run (l ++ (cs ++ r))).depth = (start.run cs).depth := by
  rw [run_append, run_start_of_allBlank hl, run_append, depth_run_of_allBlank hr]

theorem nestsBars_start_append_iff (hl : AllBlank l) (hr : AllBlank r) :
    start.NestsBars (l ++ (cs ++ r)) ↔ start.NestsBars cs := by
  simp [nestsBars_append_iff, nestsBars_of_allBlank, run_start_of_allBlank, hl, hr]

end Scan

open Scan

variable {a b l r m cs : List Char} {ms ps : List (List Char)}

/-! ## Members of a text -/

theorem members_eq (cs : List Char) :
    members cs = ((start.pieces cs).map trim).filter (!·.isEmpty) := rfl

/-- A union has the members on both sides of a bar at depth 0. -/
theorem members_append_bar (h : (start.run a).depth = 0) (b : List Char) :
    members (a ++ '|' :: b) = members a ++ members b := by
  simp [members_eq, pieces_append_bar h]

/-- Blanks around a union are not part of its members. -/
theorem members_append_append (hl : AllBlank l) (hr : AllBlank r) (cs : List Char) :
    members (l ++ (cs ++ r)) = members cs := by
  have single {blanks : List Char} (h : AllBlank blanks) (s : Scan) : s.pieces blanks = [blanks] :=
    pieces_eq_singleton_iff.2 (nestsBars_of_allBlank h)
  have behind : members (cs ++ r) = members cs := by
    obtain ⟨front, last, first, back, hcs, h, same⟩ := exists_pieces_append start cs r
    rw [single hr] at h
    obtain ⟨rfl, rfl⟩ := List.cons_eq_cons.1 h
    have trimmed : trim (last ++ r) = trim last := trim_append_append allBlank_nil hr last
    rw [members_eq, same, members_eq, hcs, List.map_append, List.map_append, List.map_singleton,
      List.map_singleton, trimmed]
  have before : members (l ++ (cs ++ r)) = members (cs ++ r) := by
    obtain ⟨front, last, first, back, h, hcs, same⟩ := exists_pieces_append start l (cs ++ r)
    rw [single hl] at h
    rw [run_start_of_allBlank hl] at hcs
    obtain ⟨rfl, rfl⟩ : front = [] ∧ last = l := by
      cases front <;> simp_all
    have trimmed : trim (last ++ first) = trim first := by
      simpa using trim_append_append hl allBlank_nil first
    simp [members_eq, same, hcs, trimmed]
  exact before.trans behind

theorem members_of_allBlank (h : AllBlank l) : members l = [] := by
  rw [← List.append_nil l]
  exact members_append_append h allBlank_nil []

/-- A member has no blanks around it and is not empty. -/
theorem trim_of_mem_members (h : m ∈ members cs) : m ≠ [] ∧ trim m = m := by
  obtain ⟨mem, ne⟩ := List.mem_filter.1 h
  obtain ⟨piece, -, rfl⟩ := List.mem_map.1 mem
  exact ⟨by simpa using ne, trim_trim piece⟩

/-- A text without bars at depth 0 is no union. -/
theorem length_members_le_one (h : start.NestsBars cs) : (members cs).length ≤ 1 := by
  rw [members_eq, pieces_eq_singleton_iff.2 h]
  exact List.length_filter_le _ _

/-! ## Separable spellings -/

/-- The spellings come apart again when they are put together with bars: no bar of any of them
stands at depth 0, and all but the last return to depth 0. -/
structure Separable (ps : List (List Char)) : Prop where
  nested : ∀ p ∈ ps, start.NestsBars p
  returns : ps.Pairwise fun p _ => (start.run p).depth = 0

theorem separable_cons_iff {p : List Char} :
    Separable (p :: ps) ↔
      start.NestsBars p ∧ (ps ≠ [] → (start.run p).depth = 0) ∧ Separable ps := by
  constructor
  · rintro ⟨nested, returns⟩
    obtain ⟨first, others⟩ := List.pairwise_cons.1 returns
    obtain ⟨hp, hps⟩ := List.forall_mem_cons.1 nested
    refine ⟨hp, fun ne => ?_, hps, others⟩
    obtain ⟨q, hq⟩ := List.exists_mem_of_ne_nil ps ne
    exact first q hq
  · rintro ⟨hp, first, nested, returns⟩
    refine ⟨List.forall_mem_cons.2 ⟨hp, nested⟩, List.pairwise_cons.2 ⟨fun q hq => ?_, returns⟩⟩
    exact first (List.ne_nil_of_mem hq)

theorem Separable.sublist (h : Separable ps) (sub : ms.Sublist ps) : Separable ms :=
  ⟨fun p hp => h.nested p (sub.subset hp), h.returns.sublist sub⟩

theorem Separable.map_trim (h : Separable ps) : Separable (ps.map trim) := by
  constructor
  · intro p hp
    obtain ⟨q, hq, rfl⟩ := List.mem_map.1 hp
    obtain ⟨l, r, hl, hr, same⟩ := exists_eq_append_trim q
    have nested := h.nested q hq
    rw [same] at nested
    exact (nestsBars_start_append_iff hl hr).1 nested
  · refine List.pairwise_map.2 (h.returns.imp fun {q _} zero => ?_)
    obtain ⟨l, r, hl, hr, same⟩ := exists_eq_append_trim q
    rw [same, depth_run_start_append hl hr] at zero
    exact zero

/-- Where a text is cut, the piece before has returned to depth 0. -/
theorem exists_separable_pieces (s : Scan) (cs : List Char) :
    ∃ first others, s.pieces cs = first :: others ∧ s.NestsBars first ∧
      (others ≠ [] → (s.run first).depth = 0) ∧ Separable others := by
  -- Only the first piece is scanned from `s`; behind each bar the scan starts anew.
  induction cs generalizing s with
  | nil => exact ⟨[], [], rfl, nestsBars_nil, fun h => absurd rfl h, by simp, List.Pairwise.nil⟩
  | cons c cs ih =>
    by_cases bar : c = '|' ∧ s.depth = 0
    · obtain ⟨rfl, zero⟩ := bar
      obtain ⟨first, others, same, rest⟩ := ih start
      refine ⟨[], _, pieces_cons_bar zero cs, nestsBars_nil, fun _ => zero, ?_⟩
      rw [same]
      exact separable_cons_iff.2 rest
    · obtain ⟨first, others, same, longer⟩ := exists_pieces_cons bar cs
      obtain ⟨first', others', same', nested, rest⟩ := ih (s.next c)
      obtain ⟨rfl, rfl⟩ := List.cons_eq_cons.1 (same.symm.trans same')
      exact ⟨c :: first, others, longer, nestsBars_cons_iff.2 ⟨bar, nested⟩, rest⟩

theorem separable_members (cs : List Char) : Separable (members cs) := by
  obtain ⟨first, others, same, rest⟩ := exists_separable_pieces start cs
  have pieces : Separable (start.pieces cs) := by
    rw [same]
    exact separable_cons_iff.2 rest
  exact pieces.map_trim.sublist List.filter_sublist

/-- A spelling is its only member just when no bar of it stands at depth 0. -/
theorem members_eq_singleton_iff (ne : m ≠ []) (trimmed : trim m = m) :
    members m = [m] ↔ start.NestsBars m := by
  constructor
  · intro same
    have separable := separable_members m
    rw [same] at separable
    exact separable.nested m List.mem_cons_self
  · intro nested
    simp [members_eq, pieces_eq_singleton_iff.2 nested, trimmed, ne]

/-! ## Texts that spell a union -/

/-- The text spells a union of the members: they stand in order, with a bar between neighbours and
any blanks around them. There may be more bars before a member, as at the front of a union. -/
inductive IsUnionOf : List (List Char) → List Char → Prop
  | blank {l : List Char} : AllBlank l → IsUnionOf [] l
  | bar {l cs : List Char} {ms : List (List Char)} :
    AllBlank l → IsUnionOf ms cs → IsUnionOf ms (l ++ '|' :: cs)
  | single {l m r : List Char} : AllBlank l → AllBlank r → IsUnionOf [m] (l ++ (m ++ r))
  | cons {l m n r cs : List Char} {ms : List (List Char)} :
    AllBlank l → AllBlank r → IsUnionOf (n :: ms) cs →
      IsUnionOf (m :: n :: ms) (l ++ (m ++ r) ++ '|' :: cs)

/-- Blanks at the front do not matter. -/
theorem IsUnionOf.append_left (h : IsUnionOf ms cs) (hl : AllBlank l) : IsUnionOf ms (l ++ cs) := by
  cases h with
  | blank h => exact .blank (hl.append h)
  | bar h rest =>
    rw [← List.append_assoc]
    exact .bar (hl.append h) rest
  | single h hr =>
    rw [← List.append_assoc]
    exact .single (hl.append h) hr
  | cons h hr rest =>
    rw [← List.append_assoc, ← List.append_assoc]
    exact .cons (hl.append h) hr rest

/-- Members with a bar between two spaces after each but the last spell a union. -/
theorem isUnionOf_joinWith (ms : List (List Char)) : IsUnionOf ms (joinWith " | ".toList ms) := by
  have space : AllBlank [' '] := by decide
  induction ms with
  | nil => exact .blank allBlank_nil
  | cons m ms ih =>
    cases ms with
    | nil => simpa using IsUnionOf.single (m := m) allBlank_nil allBlank_nil
    | cons n ms =>
      have joined : joinWith " | ".toList (m :: n :: ms) =
          [] ++ (m ++ [' ']) ++ '|' :: ([' '] ++ joinWith " | ".toList (n :: ms)) := by
        rw [joinWith_cons _ _ (List.cons_ne_nil n ms)]
        simp
      rw [joined]
      exact .cons allBlank_nil space (ih.append_left space)

/-- The members of a union that was put together are the ones that it was put together from just
when these are separable. -/
theorem members_eq_iff (h : IsUnionOf ms cs) (proper : ∀ m ∈ ms, m ≠ [] ∧ trim m = m) :
    members cs = ms ↔ Separable ms := by
  constructor
  · rintro rfl
    exact separable_members cs
  · intro separable
    -- The separability of the remaining members carries the induction over the spelling.
    induction h with
    | blank hl => exact members_of_allBlank hl
    | bar hl _ ih =>
      have zero : (start.run _).depth = 0 := congrArg depth (run_start_of_allBlank hl)
      rw [members_append_bar zero, members_of_allBlank hl, ih proper separable, List.nil_append]
    | @single l m r hl hr =>
      obtain ⟨ne, trimmed⟩ := proper m List.mem_cons_self
      rw [members_append_append hl hr,
        (members_eq_singleton_iff ne trimmed).2 (separable.nested m List.mem_cons_self)]
    | @cons l m n r cs ms hl hr _ ih =>
      obtain ⟨ne, trimmed⟩ := proper m List.mem_cons_self
      obtain ⟨nested, returns, others⟩ := separable_cons_iff.1 separable
      have zero : (start.run (l ++ (m ++ r))).depth = 0 := by
        rw [depth_run_start_append hl hr, returns (List.cons_ne_nil n ms)]
      rw [members_append_bar zero, members_append_append hl hr,
        (members_eq_singleton_iff ne trimmed).2 nested,
        ih (fun p hp => proper p (List.mem_cons_of_mem m hp)) others, List.singleton_append]

/-- A spelling that can stand anywhere in a union: it is not empty, has no blanks around it,
returns to depth 0, and has no bar at depth 0. -/
structure IsClosed (m : List Char) : Prop where
  ne_nil : m ≠ []
  trim_eq : trim m = m
  depth_eq : (start.run m).depth = 0
  nestsBars : start.NestsBars m

instance (m : List Char) : Decidable (IsClosed m) :=
  decidable_of_iff (m ≠ [] ∧ trim m = m ∧ (start.run m).depth = 0 ∧ start.pieces m = [m])
    ⟨fun ⟨ne, trimmed, zero, single⟩ =>
      ⟨ne, trimmed, zero, pieces_eq_singleton_iff.1 single⟩,
    fun h => ⟨h.ne_nil, h.trim_eq, h.depth_eq, pieces_eq_singleton_iff.2 h.nestsBars⟩⟩

theorem separable_of_isClosed (h : ∀ m ∈ ms, IsClosed m) : Separable ms where
  nested m hm := (h m hm).nestsBars
  returns := List.pairwise_of_forall_mem_list fun m hm _ _ => (h m hm).depth_eq

theorem members_of_isClosed (spelled : IsUnionOf ms cs) (h : ∀ m ∈ ms, IsClosed m) :
    members cs = ms := by
  have proper : ∀ m ∈ ms, m ≠ [] ∧ trim m = m := fun m hm => ⟨(h m hm).ne_nil, (h m hm).trim_eq⟩
  exact (members_eq_iff spelled proper).2 (separable_of_isClosed h)

/-- Splitting and joining are inverse to each other. Closed spellings are the members of every text
that spells their union, and the members of any text, closed or not, are the members of the text
that joins them. -/
theorem members_joined :
    (∀ (ms : List (List Char)) (cs : List Char), (∀ m ∈ ms, IsClosed m) → IsUnionOf ms cs →
      members cs = ms) ∧
    ∀ raw : List Char, members (joinWith " | ".toList (members raw)) = members raw := by
  refine ⟨fun ms cs closed spelled => members_of_isClosed spelled closed, fun raw => ?_⟩
  have proper : ∀ m ∈ members raw, m ≠ [] ∧ trim m = m := fun m hm => trim_of_mem_members hm
  exact (members_eq_iff (isUnionOf_joinWith _) proper).2 (separable_members raw)

/-- A union over two lines, one of whose members has an arrow and a bar in brackets. -/
theorem members_joined_twoLines :
    members "\n | (x: A | B) => string\n | null".toList =
      ["(x: A | B) => string".toList, "null".toList] := by
  have spelled : IsUnionOf ["(x: A | B) => string".toList, "null".toList]
      ("\n ".toList ++ '|' :: (" ".toList ++ ("(x: A | B) => string".toList ++ "\n ".toList) ++
        '|' :: (" ".toList ++ ("null".toList ++ [])))) :=
    .bar (by decide) (.cons (by decide) (by decide) (.single (by decide) (by decide)))
  exact members_joined.1 _ _ (by decide) spelled

end Spelling

end ModelSchema
