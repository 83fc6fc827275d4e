import InlineAudit.Detect.Search

/-!
Patterns and what a backtracking search makes of them. A pattern can be followed from a position
in several ways; they are listed in the order a search tries them, so the first one is the match
at that position. The matches of a text are found from left to right: a match starts at the
leftmost position, from the end of the match before it on, at which there is one.

The recognisers of the library look for their shapes directly. Patterns say the same things in the
notation of regular expressions: `one` is a character class, `many` and `few` are a class repeated
greedily and lazily, `alt` is an ordered choice, `group` captures what it spans, and `notAhead`
is a negative look-ahead.
-/

namespace InlineAudit.Detect

inductive Pattern where
  | nothing
  | one (test : Char → Bool)
  | many (test : Char → Bool)
  | few (test : Char → Bool)
  | seq (first second : Pattern)
  | alt (first second : Pattern)
  | group (inner : Pattern)
  | notAhead (inner : Pattern)

/-- Where a search stands: what is left of the text, and what the group has captured. -/
structure Cursor where
  rest : List Char
  captured : List Char := []

/-- What is left after no, one, two and more characters that satisfy a test. -/
def restsWhile (test : Char → Bool) : List Char → List (List Char)
  | [] => [[]]
  | c :: rest => (c :: rest) :: if test c then restsWhile test rest else []

namespace Pattern

/-- Where a search can stand after a pattern, in the order it tries the ways there. -/
def ways : Pattern → Cursor → List Cursor
  | nothing, s => [s]
  | one test, s =>
    match s.rest with
    | c :: rest => if test c then [{ s with rest := rest }] else []
    | [] => []
  | many test, s => (restsWhile test s.rest).reverse.map fun rest => { s with rest := rest }
  | few test, s => (restsWhile test s.rest).map fun rest => { s with rest := rest }
  | seq p q, s => (p.ways s).flatMap q.ways
  | alt p q, s => p.ways s ++ q.ways s
  | group p, s =>
    (p.ways s).map fun e => { e with captured := s.rest.take (s.rest.length - e.rest.length) }
  | notAhead p, s => if (p.ways s).isEmpty then [s] else []

@[simp] theorem ways_nothing (s : Cursor) : nothing.ways s = [s] := rfl

@[simp] theorem ways_one_nil (test : Char → Bool) (captured : List Char) :
    (one test).ways ⟨[], captured⟩ = [] := rfl

@[simp] theorem ways_one_cons (test : Char → Bool) (c : Char) (rest captured : List Char) :
    (one test).ways ⟨c :: rest, captured⟩ = if test c then [⟨rest, captured⟩] else [] := rfl

@[simp] theorem ways_many (test : Char → Bool) (s : Cursor) :
    (many test).ways s =
      (restsWhile test s.rest).reverse.map fun rest => { s with rest := rest } := rfl

@[simp] theorem ways_few (test : Char → Bool) (s : Cursor) :
    (few test).ways s = (restsWhile test s.rest).map fun rest => { s with rest := rest } := rfl

@[simp] theorem ways_seq (p q : Pattern) (s : Cursor) :
    (seq p q).ways s = (p.ways s).flatMap q.ways := rfl

@[simp] theorem ways_alt (p q : Pattern) (s : Cursor) :
    (alt p q).ways s = p.ways s ++ q.ways s := rfl

@[simp] theorem ways_group (p : Pattern) (s : Cursor) :
    (group p).ways s = (p.ways s).map fun e =>
      { e with captured := s.rest.take (s.rest.length - e.rest.length) } := rfl

@[simp] theorem ways_notAhead (p : Pattern) (s : Cursor) :
    (notAhead p).ways s = if (p.ways s).isEmpty then [s] else [] := rfl

/-- The characters of a word, compared after `fold`. -/
def word (fold : Char → Char) : List Char → Pattern
  | [] => nothing
  | c :: rest => seq (one fun d => fold d == fold c) (word fold rest)

def inOrder : List Pattern → Pattern
  | [] => nothing
  | p :: rest => seq p (inOrder rest)

def anyOf : List Pattern → Pattern
  | [] => one fun _ => false
  | p :: rest => alt p (anyOf rest)

def optional (p : Pattern) : Pattern := alt p nothing

end Pattern

/-- A match: where it starts, where it stops, and what its group captured. -/
structure Match where
  start : Nat
  stop : Nat
  payload : List Char
  deriving DecidableEq, Repr

namespace Pattern

/-- The match at an offset. -/
def matchAt? (p : Pattern) (text : List Char) (offset : Nat) : Option Match :=
  (p.ways { rest := text.drop offset }).head?.map fun e =>
    { start := offset, stop := text.length - e.rest.length, payload := e.captured }

/-- The matches at ascending offsets, none of which starts before the offset `free`. -/
def matchesFrom (p : Pattern) (text : List Char) : (free : Nat) → List Nat → List Match
  | _, [] => []
  | free, offset :: rest =>
    if offset < free then p.matchesFrom text free rest
    else match p.matchAt? text offset with
      | some found => found :: p.matchesFrom text found.stop rest
      | none => p.matchesFrom text free rest

/-- The successive matches of a text. -/
def allMatches (p : Pattern) (text : List Char) : List Match :=
  p.matchesFrom text 0 (List.range (text.length + 1))

/-- What `next` makes of the first way it can go on from. -/
def first {β : Type} (p : Pattern) (s : Cursor) (next : Cursor → Option β) : Option β :=
  (p.ways s).findSome? next

theorem head?_ways (p : Pattern) (s : Cursor) : (p.ways s).head? = p.first s some := by
  unfold first
  cases p.ways s <;> rfl

section First

variable {β : Type} (s : Cursor) (next : Cursor → Option β)

@[simp] theorem first_nothing : nothing.first s next = next s := by
  simp [first]

@[simp] theorem first_seq (p q : Pattern) :
    (seq p q).first s next = p.first s fun e => q.first e next := by
  simp only [first, ways_seq]
  induction p.ways s with
  | nil => rfl
  | cons e rest ih =>
      rw [List.flatMap_cons, List.findSome?_append, List.findSome?_cons, ih]
      cases List.findSome? next (q.ways e) <;> rfl

theorem first_seq_assoc (p q r : Pattern) :
    (seq (seq p q) r).first s next = (seq p (seq q r)).first s next := by
  simp only [first_seq]

@[simp] theorem first_alt (p q : Pattern) :
    (alt p q).first s next = (p.first s next).or (q.first s next) := by
  simp [first]

theorem first_optional (p : Pattern) :
    p.optional.first s next = (p.first s next).or (next s) := by
  simp [optional]

theorem first_anyOf (ps : List Pattern) :
    (anyOf ps).first s next = ps.findSome? fun p => p.first s next := by
  induction ps with
  | nil =>
      obtain ⟨rest, captured⟩ := s
      cases rest <;> simp [first, anyOf]
  | cons p rest ih =>
      rw [anyOf, first_alt, ih, List.findSome?_cons]
      cases p.first s next <;> rfl

theorem first_notAhead (p : Pattern) :
    (notAhead p).first s next = if (p.first s some).isSome then none else next s := by
  rw [← head?_ways]
  simp only [first, ways_notAhead]
  cases p.ways s <;> simp

/-- A greedy repetition takes all it can get, if nothing can go on where it could have taken
more. -/
theorem first_many (test : Char → Bool)
    (hstop : ∀ c rest, test c = true → next { s with rest := c :: rest } = none) :
    (many test).first s next = next { s with rest := s.rest.dropWhile test } := by
  obtain ⟨text, captured⟩ := s
  simp only [first, ways_many]
  induction text with
  | nil => simp [restsWhile]
  | cons c rest ih =>
      by_cases hc : test c = true
      · -- going on before `c` is tried last, and fails
        have hhere := hstop c rest hc
        have hrest := ih hstop
        simp only [restsWhile, hc, if_true, List.reverse_cons, List.map_append,
          List.findSome?_append, hrest, List.dropWhile_cons_of_pos, List.map_cons, List.map_nil,
          List.findSome?_cons, hhere, List.findSome?_nil, Option.or_none]
      · simp [restsWhile, hc]

end First

section Payload

variable {β : Type}

theorem length_le_of_mem_restsWhile {test : Char → Bool} {text rest : List Char}
    (h : rest ∈ restsWhile test text) : rest.length ≤ text.length := by
  induction text with
  | nil => simp_all [restsWhile]
  | cons c text ih =>
      simp only [restsWhile, List.mem_cons] at h
      rcases h with rfl | h
      · exact Nat.le_refl _
      · split at h
        · exact Nat.le_succ_of_le (ih h)
        · cases h

/-- What a captured lazy repetition of all characters hands on: the text so far and the rest. -/
def firstPayload (next : (payload rest : List Char) → Option β) (text : List Char) : Option β :=
  (group (few fun _ => true)).first { rest := text } fun e => next e.captured e.rest

theorem first_payload (s : Cursor) (next : Cursor → Option β) :
    (group (few fun _ => true)).first s next =
      firstPayload (fun payload rest => next { rest := rest, captured := payload }) s.rest := by
  simp [firstPayload, first, Function.comp_def]

/-- The lazy repetition ends at once if it can go on from there, else it takes one character. -/
theorem firstPayload_cons (next : (payload rest : List Char) → Option β) (c : Char)
    (text : List Char) :
    firstPayload next (c :: text) =
      (next [] (c :: text)).or
        (firstPayload (fun payload rest => next (c :: payload) rest) text) := by
  have htaken : ∀ rest ∈ restsWhile (fun _ => true) text,
      Cursor.mk rest ((c :: text).take ((c :: text).length - rest.length)) =
        Cursor.mk rest (c :: text.take (text.length - rest.length)) := by
    intro rest hmem
    have := length_le_of_mem_restsWhile hmem
    rw [List.length_cons, Nat.succ_sub this, List.take_succ_cons]
  simp only [firstPayload, first, ways_group, ways_few, restsWhile, List.map_map,
    Function.comp_def, if_true, List.map_cons, List.findSome?_cons, List.map_congr_left htaken,
    Nat.sub_self, List.take_zero]
  cases next [] (c :: text) <;> simp [List.findSome?_map, Function.comp_def]

theorem firstPayload_nil (next : (payload rest : List Char) → Option β) :
    firstPayload next [] = next [] [] := by
  simp [firstPayload, first, restsWhile]

end Payload

theorem length_le_of_mem_ways {p : Pattern} {s e : Cursor} (h : e ∈ p.ways s) :
    e.rest.length ≤ s.rest.length := by
  induction p generalizing s e with
  | nothing => simp_all
  | one test =>
      obtain ⟨text, captured⟩ := s
      cases text with
      | nil => cases h
      | cons c rest =>
          rw [ways_one_cons] at h
          split at h <;> simp_all
  | many test =>
      simp only [ways_many, List.map_reverse, List.mem_reverse, List.mem_map] at h
      obtain ⟨rest, hmem, rfl⟩ := h
      exact length_le_of_mem_restsWhile hmem
  | few test =>
      simp only [ways_few, List.mem_map] at h
      obtain ⟨rest, hmem, rfl⟩ := h
      exact length_le_of_mem_restsWhile hmem
  | seq p q ihp ihq =>
      simp only [ways_seq, List.mem_flatMap] at h
      obtain ⟨middle, hmiddle, h⟩ := h
      exact Nat.le_trans (ihq h) (ihp hmiddle)
  | alt p q ihp ihq =>
      rcases List.mem_append.mp h with h | h
      · exact ihp h
      · exact ihq h
  | group p ih =>
      simp only [ways_group, List.mem_map] at h
      obtain ⟨inner, hmem, rfl⟩ := h
      exact ih (e := inner) hmem
  | notAhead p ih =>
      rw [ways_notAhead] at h
      split at h <;> simp_all

/-- Where the last match stopped does not matter once all offsets are behind it. -/
theorem matchesFrom_of_free_le (p : Pattern) (text : List Char) (free other : Nat)
    (offsets : List Nat) (hfree : ∀ offset ∈ offsets, free ≤ offset)
    (hother : ∀ offset ∈ offsets, other ≤ offset) :
    p.matchesFrom text free offsets = p.matchesFrom text other offsets := by
  induction offsets with
  | nil => rfl
  | cons offset rest ih =>
      have h1 : ¬offset < free := Nat.not_lt.mpr (hfree offset (by simp))
      have h2 : ¬offset < other := Nat.not_lt.mpr (hother offset (by simp))
      have hrest := ih (fun o ho => hfree o (by simp [ho])) (fun o ho => hother o (by simp [ho]))
      simp only [matchesFrom, h1, h2, if_false, hrest]

theorem start_of_matchAt? {p : Pattern} {text : List Char} {offset : Nat} {found : Match}
    (h : p.matchAt? text offset = some found) : found.start = offset := by
  simp only [matchAt?, Option.map_eq_some_iff] at h
  obtain ⟨_, _, rfl⟩ := h
  rfl

theorem starts_sublist (p : Pattern) (text : List Char) (free : Nat) (offsets : List Nat) :
    ((p.matchesFrom text free offsets).map Match.start).Sublist offsets := by
  fun_induction matchesFrom p text free offsets with
  | case1 free => exact List.Sublist.slnil
  | case2 free offset rest hlt ih => exact ih.cons offset
  | case3 free offset rest hge found hfound ih =>
      rw [List.map_cons, start_of_matchAt? hfound]
      exact ih.cons_cons offset
  | case4 free offset rest hge hnone ih => exact ih.cons offset

theorem starts_increasing (p : Pattern) (text : List Char) :
    (p.allMatches text).Pairwise fun a b => a.start < b.start := by
  have hsorted := (List.pairwise_lt_range (n := text.length + 1)).sublist
    (p.starts_sublist text 0 (List.range (text.length + 1)))
  exact List.pairwise_map.mp hsorted

theorem matchAt?_of_mem_matchesFrom {p : Pattern} {text : List Char} {free : Nat}
    {offsets : List Nat} {found : Match} (h : found ∈ p.matchesFrom text free offsets) :
    found.start ∈ offsets ∧ p.matchAt? text found.start = some found := by
  fun_induction matchesFrom p text free offsets with
  | case1 free => cases h
  | case2 free offset rest hlt ih =>
      obtain ⟨hmem, hat⟩ := ih h
      exact ⟨List.mem_cons_of_mem _ hmem, hat⟩
  | case3 free offset rest hge here hhere ih =>
      rcases List.mem_cons.mp h with rfl | h
      · rw [start_of_matchAt? hhere]
        exact ⟨List.mem_cons_self, hhere⟩
      · obtain ⟨hmem, hat⟩ := ih h
        exact ⟨List.mem_cons_of_mem _ hmem, hat⟩
  | case4 free offset rest hge hnone ih =>
      obtain ⟨hmem, hat⟩ := ih h
      exact ⟨List.mem_cons_of_mem _ hmem, hat⟩

theorem matchAt?_of_mem_allMatches {p : Pattern} {text : List Char} {found : Match}
    (h : found ∈ p.allMatches text) :
    found.start ≤ text.length ∧ p.matchAt? text found.start = some found := by
  obtain ⟨hmem, hat⟩ := matchAt?_of_mem_matchesFrom h
  rw [List.mem_range] at hmem
  exact ⟨by omega, hat⟩

theorem free_le_of_mem_matchesFrom {p : Pattern} {text : List Char} {free : Nat}
    {offsets : List Nat} (hsorted : offsets.Pairwise (· < ·)) {found : Match}
    (h : found ∈ p.matchesFrom text free offsets) : free ≤ found.start := by
  fun_induction matchesFrom p text free offsets with
  | case1 free => cases h
  | case2 free offset rest hlt ih => exact ih (List.pairwise_cons.mp hsorted).2 h
  | case3 free offset rest hge here hhere ih =>
      have hfree : free ≤ offset := Nat.not_lt.mp hge
      rcases List.mem_cons.mp h with rfl | h
      · rwa [start_of_matchAt? hhere]
      · have hlater := (List.pairwise_cons.mp hsorted).1 _ (matchAt?_of_mem_matchesFrom h).1
        omega
  | case4 free offset rest hge hnone ih => exact ih (List.pairwise_cons.mp hsorted).2 h

theorem matchesFrom_apart {p : Pattern} {text : List Char} {free : Nat} {offsets : List Nat}
    (hsorted : offsets.Pairwise (· < ·)) :
    (p.matchesFrom text free offsets).Pairwise fun a b => a.stop ≤ b.start := by
  fun_induction matchesFrom p text free offsets with
  | case1 free => exact List.Pairwise.nil
  | case2 free offset rest hlt ih => exact ih (List.pairwise_cons.mp hsorted).2
  | case3 free offset rest hge here hhere ih =>
      have hrest := (List.pairwise_cons.mp hsorted).2
      exact List.pairwise_cons.mpr ⟨fun _ h => free_le_of_mem_matchesFrom hrest h, ih hrest⟩
  | case4 free offset rest hge hnone ih => exact ih (List.pairwise_cons.mp hsorted).2

/-- The search goes on where a match stops, so no match starts inside an earlier one. -/
theorem allMatches_apart {p : Pattern} {text : List Char} {first second : Match}
    (hfirst : first ∈ p.allMatches text) (hsecond : second ∈ p.allMatches text)
    (hlt : first.start < second.start) : first.stop ≤ second.start := by
  have happart : (p.allMatches text).Pairwise fun a b => a.stop ≤ b.start :=
    matchesFrom_apart List.pairwise_lt_range
  have hsorted := p.starts_increasing text
  rw [List.pairwise_iff_getElem] at happart hsorted
  obtain ⟨i, hi, rfl⟩ := List.mem_iff_getElem.mp hfirst
  obtain ⟨j, hj, rfl⟩ := List.mem_iff_getElem.mp hsecond
  rcases Nat.lt_trichotomy i j with hij | rfl | hji
  · exact happart i j hi hj hij
  · exact absurd hlt (Nat.lt_irrefl _)
  · exact absurd (hsorted j i hj hi hji) (Nat.lt_asymm hlt)

/-- A match at an offset is taken or starts inside one that is. -/
theorem matchesFrom_covers {p : Pattern} {text : List Char} {free : Nat} {offsets : List Nat}
    (hsorted : offsets.Pairwise (· < ·)) {found : Match} (hmem : found.start ∈ offsets)
    (hfree : free ≤ found.start) (hat : p.matchAt? text found.start = some found) :
    found ∈ p.matchesFrom text free offsets ∨
      ∃ other ∈ p.matchesFrom text free offsets,
        other.start < found.start ∧ found.start < other.stop := by
  fun_induction matchesFrom p text free offsets with
  | case1 free => cases hmem
  | case2 free offset rest hlt ih =>
      rcases List.mem_cons.mp hmem with heq | hmem
      · omega
      · exact ih (List.pairwise_cons.mp hsorted).2 hmem hfree
  | case3 free offset rest hge here hhere ih =>
      obtain ⟨hafter, hsorted⟩ := List.pairwise_cons.mp hsorted
      rcases List.mem_cons.mp hmem with heq | hmem
      · rw [heq, hhere, Option.some.injEq] at hat
        exact Or.inl (hat ▸ List.mem_cons_self)
      · -- the search goes on where this match stops; what starts before that is covered by it
        by_cases hinside : found.start < here.stop
        · refine Or.inr ⟨here, List.mem_cons_self, ?_, hinside⟩
          rw [start_of_matchAt? hhere]
          exact hafter _ hmem
        · rcases ih hsorted hmem (Nat.not_lt.mp hinside) with h | ⟨other, hother, h⟩
          · exact Or.inl (List.mem_cons_of_mem _ h)
          · exact Or.inr ⟨other, List.mem_cons_of_mem _ hother, h⟩
  | case4 free offset rest hge hnone ih =>
      rcases List.mem_cons.mp hmem with heq | hmem
      · rw [heq, hnone] at hat
        cases hat
      · exact ih (List.pairwise_cons.mp hsorted).2 hmem hfree

theorem allMatches_covers {p : Pattern} {text : List Char} (found : Match)
    (hle : found.start ≤ text.length) (hat : p.matchAt? text found.start = some found) :
    found ∈ p.allMatches text ∨
      ∃ other ∈ p.allMatches text, other.start < found.start ∧ found.start < other.stop :=
  matchesFrom_covers List.pairwise_lt_range (List.mem_range.mpr (by omega)) (Nat.zero_le _) hat

/-- A recogniser that sees the matches of a pattern: at each position the payload and the size of
the match there, which is never empty. -/
structure SeenBy (p : Pattern) (see : Recogniser (List Char)) : Prop where
  see_eq : ∀ before text, see before text =
    (p.first { rest := text } some).map fun e => (e.captured, text.length - e.rest.length)
  shorter : ∀ text e, p.first { rest := text } some = some e → e.rest.length < text.length

namespace SeenBy

variable {p : Pattern} {see : Recogniser (List Char)}

theorem matchAt?_eq (h : p.SeenBy see) (before : Option Char) (text : List Char) (offset : Nat)
    (hoffset : offset ≤ text.length) :
    p.matchAt? text offset = (see before (text.drop offset)).map fun (payload, size) =>
      { start := offset, stop := offset + size, payload := payload } := by
  rw [matchAt?, head?_ways, h.see_eq, Option.map_map]
  cases hfirst : p.first { rest := text.drop offset } some with
  | none => rfl
  | some e =>
      have hshort := h.shorter _ e hfirst
      rw [List.length_drop] at hshort
      have hstop : text.length - e.rest.length =
          offset + ((text.drop offset).length - e.rest.length) := by
        rw [List.length_drop]
        omega
      simp [hstop]

theorem matchAt?_length (h : p.SeenBy see) (text : List Char) :
    p.matchAt? text text.length = none := by
  rw [matchAt?, head?_ways, List.drop_length]
  cases hfirst : p.first { rest := [] } some with
  | none => rfl
  | some e => exact absurd (h.shorter _ e hfirst) (by simp)

theorem sightsFrom_eq (h : p.SeenBy see) (skip : Nat) (before : Option Char)
    (done rest : List Char) :
    sightsFrom see skip done.length before rest =
      (p.matchesFrom (done ++ rest) (done.length + skip)
        (List.range' done.length (rest.length + 1))).map fun found =>
          (found.start, found.payload) := by
  induction rest generalizing skip before done with
  | nil =>
      simp [sightsFrom, matchesFrom, h.matchAt?_length]
  | cons c rest ih =>
      have hnext := fun skip => ih skip (some c) (done ++ [c])
      simp only [List.length_append, List.length_singleton, List.append_assoc,
        List.singleton_append] at hnext
      rw [List.length_cons, List.range'_succ, matchesFrom]
      cases skip with
      | succ skip =>
          -- still within the last match: both searches pass over `c`
          rw [sightsFrom, hnext, if_pos (by omega)]
          rw [show done.length + 1 + skip = done.length + (skip + 1) by omega]
      | zero =>
          have hat := h.matchAt?_eq before (done ++ c :: rest) done.length (by simp)
          rw [List.drop_left] at hat
          rw [sightsFrom, hat, if_neg (by omega)]
          cases hsee : see before (c :: rest) with
          | none =>
              have hfree := p.matchesFrom_of_free_le (done ++ c :: rest) done.length
                (done.length + 1) (List.range' (done.length + 1) (rest.length + 1))
                (by simp only [List.mem_range'_1]; omega) (by simp only [List.mem_range'_1]; omega)
              simp only [Option.map_none, Nat.add_zero, hfree]
              exact hnext 0
          | some sight =>
              obtain ⟨payload, size⟩ := sight
              have hsize : 0 < size := by
                rw [h.see_eq] at hsee
                cases hfirst : p.first { rest := c :: rest } some with
                | none => simp [hfirst] at hsee
                | some e =>
                    have hshort := h.shorter _ e hfirst
                    simp only [hfirst, Option.map_some, Option.some.injEq, Prod.mk.injEq] at hsee
                    omega
              simp only [Option.map_some, List.map_cons]
              rw [hnext, show done.length + 1 + (size - 1) = done.length + size by omega]

/-- The search of a recogniser goes through the successive matches of its pattern. -/
theorem sights_eq (h : p.SeenBy see) (text : List Char) :
    sights see text = (p.allMatches text).map fun found => (found.start, found.payload) := by
  have := h.sightsFrom_eq 0 none [] text
  simpa [sights, allMatches, List.range_eq_range'] using this

end SeenBy

end Pattern
end InlineAudit.Detect
