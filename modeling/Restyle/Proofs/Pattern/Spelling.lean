import Mathlib.Tactic
import Restyle.Pattern.Basic

/-!
# Patterns that spell out a line

Most characters stand for themselves in a pattern. Read one by one they are texts of one character,
and in a sequence neighbouring texts are one. So a text of such characters between a circumflex and
a dollar sign is a pattern that looks for the text as a whole line. It is refused only if the size
check says so. The size check by weight refuses a line that is too long for the automata that
recognise it.

## Main definitions

* `Restyle.IsOrdinary` — a character stands for itself in a pattern.
* `Restyle.Shape.wholeLine` — the shape of a text that is a whole line.
* `Restyle.PatternReader.reading` — the state of reading a pattern without groups.
* `Restyle.SizeCheck.KeepsLimit` — a size check has a limit for texts.

## Main results

* `Restyle.PatternReader.readFrom_reading_append` — ordinary characters are read one by one.
* `Restyle.Pattern.readWithin_wholeLine` — the pattern that a text between the two anchors writes.
* `Restyle.Shape.isTooHeavy_wholeLine_iff` — for which texts it is too heavy.
* `Restyle.Shape.keepsLimit_isTooHeavy` — the size check by weight has this limit.
-/

namespace Restyle

/-- The characters that have a meaning of their own in a pattern. -/
def specialChars : List Char :=
  ['(', ')', '|', '[', '?', '*', '+', '\x7b', '\\', '.', '^', '$']

/-- A character that stands for itself in a pattern. -/
def IsOrdinary (c : Char) : Prop := c ∉ specialChars

instance (c : Char) : Decidable (IsOrdinary c) := inferInstanceAs (Decidable (c ∉ specialChars))

namespace Shape

/-- A text that is a whole line. -/
def wholeLine (line : List Char) : Shape :=
  .seq (.anchor .lineStart) (.seq (.literal line) (.anchor .lineEnd))

theorem ofSet_char (c : Char) : ofSet (.char c) = literal [c] := by
  simp [ofSet, CharSet.char, CharSet.insert, insertRange, CharSet.empty]

/-- Neighbouring texts of one character are one text. -/
theorem foldr_link_literals (a : Anchor) : ∀ {text : List Char}, text ≠ [] →
    (text.map (fun c => literal [c]) ++ [anchor a]).foldr link [] = [literal text, anchor a]
  | [], h => absurd rfl h
  | [c], _ => rfl
  | c :: d :: text, _ => by
    rw [List.map_cons, List.cons_append, List.foldr_cons,
      foldr_link_literals a (List.cons_ne_nil d text)]
    rfl

/-- The characters of a text one after another between two anchors. -/
theorem sequence_between_anchors (a b : Anchor) {text : List Char} (h : text ≠ []) :
    sequence (.anchor a :: text.map (fun c => literal [c]) ++ [.anchor b]) =
      .seq (.anchor a) (.seq (.literal text) (.anchor b)) := by
  have hparts : (text.map fun c => literal [c]).flatMap parts = text.map fun c => literal [c] := by
    rw [List.flatMap_map]
    exact List.flatMap_pure_eq_map _ text
  rw [sequence, List.cons_append, List.flatMap_cons, List.flatMap_append, hparts]
  change ofParts (link (anchor a) ((text.map _ ++ [anchor b]).foldr link [])) = _
  rw [foldr_link_literals b h]
  rfl

end Shape

namespace PatternPart

/-- A part that is not nested. -/
def flat (s : Shape) : PatternPart := ⟨some s, 0⟩

theorem depthAround_flat : ∀ shapes : List Shape, depthAround (shapes.map flat) = 1
  | [] => rfl
  | _ :: shapes => depthAround_flat shapes

/-- Several parts in sequence that are not nested. -/
theorem sequence_flat {shapes : List Shape} (h : 1 < shapes.length) :
    sequence (shapes.map flat).reverse = ⟨some (.sequence shapes), 1⟩ := by
  have hdepth : depthAround (shapes.map flat).reverse = 1 := by
    rw [← List.map_reverse]
    exact depthAround_flat shapes.reverse
  have hshapes : (shapes.map flat).reverse.reverse.filterMap (·.shape) = shapes := by
    rw [List.reverse_reverse, List.filterMap_map]
    exact List.filterMap_some
  obtain ⟨a, b, parts, hparts⟩ : ∃ a b parts, (shapes.map flat).reverse = a :: b :: parts := by
    have hlength : 1 < (shapes.map flat).reverse.length := by simpa using h
    match (shapes.map flat).reverse, hlength with
    | a :: b :: parts, _ => exact ⟨a, b, parts, rfl⟩
  rw [hparts] at hdepth hshapes ⊢
  rw [← hdepth]
  exact congrArg (fun ss => (⟨some (.sequence ss), _⟩ : PatternPart)) hshapes

end PatternPart

namespace PatternReader

/-- The state of reading a pattern without groups or flags: the shapes that have been read, in
order, and what is left. -/
def reading (shapes : List Shape) (rest : List Char) : PatternReader :=
  ⟨rest, {}, ⟨none, {}, [], (shapes.map .flat).reverse⟩, [], 0, []⟩

variable {shapes : List Shape} {s : Shape} {c : Char} {rest : List Char}

theorem add_reading : (reading shapes (c :: rest)).add (.flat s) rest =
    reading (shapes ++ [s]) rest := by
  rw [reading, reading, List.map_append, List.reverse_append]
  rfl

theorem readFrom_reading_cons (n : Nat)
    (h : (reading shapes (c :: rest)).step c rest = .ok (reading (shapes ++ [s]) rest)) :
    readFrom (n + 1) (reading shapes (c :: rest)) = readFrom n (reading (shapes ++ [s]) rest) := by
  have hskip : (reading shapes (c :: rest)).flags.skip (reading shapes (c :: rest)).rest =
      c :: rest :=
    rfl
  rw [readFrom, hskip]
  simp only [h]
  rfl

/-- An ordinary character is a text of its own. -/
theorem step_ordinary (h : IsOrdinary c) :
    (reading shapes (c :: rest)).step c rest = .ok (reading (shapes ++ [.literal [c]]) rest) := by
  have hchar : (reading shapes (c :: rest)).addAtom (.char c) rest =
      .ok (reading (shapes ++ [.literal [c]]) rest) := by
    rw [← add_reading, ← Shape.ofSet_char]
    rfl
  unfold step
  split
  all_goals first | exact absurd (by decide) h | exact hchar

/-- Ordinary characters are read one by one. -/
theorem readFrom_reading_append (n : Nat) : ∀ {cs : List Char}, (∀ c ∈ cs, IsOrdinary c) →
    ∀ shapes : List Shape, readFrom (cs.length + n) (reading shapes (cs ++ rest)) =
      readFrom n (reading (shapes ++ cs.map fun c => .literal [c]) rest)
  | [], _, shapes => by
    rw [List.length_nil, Nat.zero_add, List.map_nil, List.append_nil, List.nil_append]
  | c :: cs, h, shapes => by
    obtain ⟨hc, hcs⟩ := List.forall_mem_cons.1 h
    rw [List.length_cons, Nat.add_right_comm, List.cons_append,
      readFrom_reading_cons _ (step_ordinary hc), readFrom_reading_append n hcs, List.append_assoc]
    rfl

/-- Several shapes that have been read make a sequence. -/
theorem finish_reading (h : 1 < shapes.length) :
    (reading shapes []).finish = .ok ⟨.sequence shapes, []⟩ := by
  have hcontent : (reading shapes []).level.content = ⟨some (.sequence shapes), 1⟩ :=
    PatternPart.sequence_flat h
  rw [finish, hcontent]
  rfl

end PatternReader

/-- A text between the two anchors is read to its end. -/
theorem PatternReader.readFrom_wholeLine {line : List Char} (hne : line ≠ [])
    (hline : ∀ c ∈ line, IsOrdinary c) :
    readFrom (('^' :: (line ++ ['$'])).length + 1) (.start ('^' :: (line ++ ['$']))) =
      .ok ⟨.wholeLine line, []⟩ := by
  have hlength : ('^' :: (line ++ ['$'])).length + 1 = line.length + 2 + 1 := by simp
  have hbegin (n : Nat) (rest : List Char) : readFrom (n + 1) (reading [] ('^' :: rest)) =
      readFrom n (reading [.anchor .lineStart] rest) := readFrom_reading_cons n rfl
  have hend (shapes : List Shape) : readFrom 2 (reading shapes ['$']) =
      (reading (shapes ++ [.anchor .lineEnd]) []).finish :=
    (readFrom_reading_cons 1 (congrArg _ add_reading)).trans rfl
  rw [Shape.wholeLine, ← Shape.sequence_between_anchors _ _ hne, ← finish_reading (by simp),
    hlength]
  exact (hbegin _ _).trans ((readFrom_reading_append 2 hline _).trans (hend _))

/-- **The pattern that a text between the two anchors writes** looks for the text as a whole line.
It is refused only for its size. -/
theorem Pattern.readWithin_wholeLine (tooLarge : SizeCheck) {line : List Char} (hne : line ≠ [])
    (hline : ∀ c ∈ line, IsOrdinary c) :
    readWithin tooLarge ('^' :: (line ++ ['$'])) =
      if tooLarge (.wholeLine line) then .error .tooLarge else .ok ⟨.wholeLine line, []⟩ := by
  rw [readWithin, PatternReader.readFrom_wholeLine hne hline]
  simp only [bind, Except.bind, throw, throwThe, MonadExceptOf.throw, pure, Except.pure]

namespace Shape

/-- The weight of a text is that of its bytes, and what stands around it adds its own. -/
theorem weight_around_literal (d : Direction) (before after : Shape) (text : List Char) :
    (seq before (seq (literal text) after)).weight d =
      before.weight d + (32 * (text.map Char.utf8Size).sum + after.weight d) := rfl

/-- The weight of a whole line is that of the bytes of its text and of the two anchors. -/
theorem weight_wholeLine (d : Direction) (line : List Char) :
    (wholeLine line).weight d = 32 + (32 * (line.map Char.utf8Size).sum + 32) :=
  weight_around_literal ..

/-- **A whole line is too heavy** only if it is long. -/
theorem isTooHeavy_wholeLine_iff {line : List Char} (h : ∀ c ∈ line, c.utf8Size = 1) :
    (wholeLine line).isTooHeavy ↔ 327671 < line.length := by
  have hsize : (line.map Char.utf8Size).sum = line.length := by
    rw [List.map_congr_left h, List.map_const', List.sum_replicate, smul_eq_mul, Nat.mul_one]
  rw [isTooHeavy, weight_wholeLine, weight_wholeLine, hsize, weightLimit, Bool.or_eq_true,
    decide_eq_true_iff, decide_eq_true_iff]
  omega

end Shape

/-- A size check that lets no text of more than ten mebibytes pass, whatever stands before it and
after it. -/
def SizeCheck.KeepsLimit (tooLarge : SizeCheck) : Prop :=
  ∀ (before after : Shape) (text : List Char),
    Shape.weightLimit < (text.map Char.utf8Size).sum →
      tooLarge (.seq before (.seq (.literal text) after))

/-- The size check by weight keeps the limit, for no byte weighs less than one. -/
theorem Shape.keepsLimit_isTooHeavy : SizeCheck.KeepsLimit isTooHeavy := by
  intro before after text hlimit
  rw [isTooHeavy, weight_around_literal, Bool.or_eq_true, decide_eq_true_iff]
  exact .inl (by omega)

end Restyle
