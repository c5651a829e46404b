import Restyle.Proofs.Rule.Convergence

/-!
# Converting a text piece by piece

A form *brings* a piece of text to another one if it does so whatever stands behind the piece, and
goes through what stands behind as it would without the piece. What several forms bring is found
piece by piece, and so the text that they make of pieces put together.

A text is *quiet* if no tag whose name has a capital letter begins in it, or at its end together
with what stands behind. The rules for tags leave quiet texts as they are.

## Main definitions

* `Restyle.Form.applyAll` — a text after several forms.
* `Restyle.Form.Brings` — forms bring a piece to another one.
* `Restyle.Form.IsSteady` — the rules for tags leave a piece as it is.
* `Restyle.isQuiet` — no tag whose name has a capital letter begins in a text, or at its end.

## Main results

* `Restyle.Form.isSteady_of_isQuiet` — the rules for tags leave quiet texts as they are.
* `Restyle.Form.brings_of_turn?` — pieces that one of the rules for tags turns.
-/

namespace Restyle

namespace Form

/-- A text after several forms. -/
def applyAll (xs : List Form) (text : List Char) : List Char := xs.foldl (fun t x => x.apply t) text

/-- The forms of a list bring a piece of text to another one. -/
def Brings (xs : List Form) (s s' : List Char) : Prop :=
  ∀ rest, applyAll xs (s ++ rest) = s' ++ applyAll xs rest

variable {x : Form} {xs ys : List Form} {s s' s'' t t' : List Char}

theorem applyAll_append (text : List Char) :
    applyAll (xs ++ ys) text = applyAll ys (applyAll xs text) := List.foldl_append

/-- The first rules of the table are those that remove imports. -/
theorem applyChars_take_eq (text : List Char) :
    RuleSet.applyChars (bootstrapRules.take 5) text = applyAll importForms text :=
  applyChars_eq_of_hasForm forall₂_importRules text

theorem applyAll_singleton (x : Form) (text : List Char) : applyAll [x] text = x.apply text := rfl

theorem applyAll_nil (h : ∀ x ∈ xs, x.isSound) : applyAll xs [] = [] := by
  induction xs with
  | nil => rfl
  | cons x xs ih =>
    change applyAll xs (x.apply []) = []
    rw [apply_nil (h x (by simp)), ih fun y hy => h y (by simp [hy])]

theorem brings_nil (xs : List Form) : Brings xs [] [] := fun _ => rfl

theorem Brings.append (hs : Brings xs s s') (ht : Brings xs t t') :
    Brings xs (s ++ t) (s' ++ t') := fun rest => by
  rw [List.append_assoc, hs, ht, List.append_assoc]

theorem Brings.trans (h : Brings xs s s') (h' : Brings ys s' s'') : Brings (xs ++ ys) s s'' :=
  fun rest => by rw [applyAll_append, h, h', applyAll_append]

theorem brings_self (h : ∀ x ∈ xs, Brings [x] s s) : Brings xs s s := by
  induction xs with
  | nil => exact fun _ => rfl
  | cons x xs ih =>
    have hlater : Brings xs s s := ih fun y hy => h y (by simp [hy])
    exact (h x (by simp)).trans hlater

theorem brings_cons (hx : x.isSound) {c : Char} (h : ∀ rest, x.turn? (c :: (s ++ rest)) = none)
    (hs : Brings [x] s s') : Brings [x] (c :: s) (c :: s') := fun rest => by
  change x.apply (c :: (s ++ rest)) = c :: (s' ++ x.apply rest)
  rw [apply_of_turn?_eq_none hx (h rest)]
  exact congrArg (c :: ·) (hs rest)

/-- What several pieces become that stand one after another. -/
theorem applyAll_flatMap {α : Type} {source target : α → List Char} (hsound : ∀ x ∈ xs, x.isSound) :
    ∀ {pieces : List α}, (∀ p ∈ pieces, Brings xs (source p) (target p)) →
      applyAll xs (pieces.flatMap source) = pieces.flatMap target
  | [], _ => applyAll_nil hsound
  | p :: pieces, h => by
    rw [List.flatMap_cons, h p (by simp), List.flatMap_cons,
      applyAll_flatMap hsound fun q hq => h q (by simp [hq])]

/-! ### Where the rules for tags begin -/

/-- What stands at the beginning of every text that a form turns, leaving imports aside. -/
def start : Form → List Char
  | namedImport _ | packageImport | styleImport => []
  | variant _ _ => "<Button".toList
  | element tag _ _ _ => tag.toList
  | longField | field => "<TextField".toList
  | words old _ => old.toList

theorem start_prefix_of_turn? (hx : x.isSound) {rest : List Char}
    {turned : List Char × List Char} (h : x.turn? rest = some turned) : x.start <+: rest := by
  obtain ⟨put, after⟩ := turned
  cases x with
  | namedImport | packageImport | styleImport => exact List.nil_prefix
  | variant value new =>
    obtain ⟨w, cap, -, -, rfl, -⟩ := exists_of_turn?_variant hx h
    exact List.prefix_append _ _
  | element tag ending new finish =>
    obtain ⟨cap, -, rfl, -⟩ := exists_of_turn?_element hx h
    exact List.prefix_append _ _
  | longField =>
    obtain ⟨w, cap, cap', -, -, -, -, -, rfl, -⟩ := exists_of_turn?_longField h
    exact List.prefix_append _ _
  | field =>
    obtain ⟨w, cap, -, -, -, rfl, -⟩ := exists_of_turn?_field h
    exact List.prefix_append _ _
  | words old new =>
    obtain ⟨rfl, -⟩ := (turn?_words_iff hx).1 h
    exact List.prefix_append _ _

/-- Whether a text and what a form begins with differ before either of them ends. -/
def isApart (s : List Char) (x : Form) : Bool := !x.start.isPrefixOf s && !s.isPrefixOf x.start

theorem turn?_eq_none_of_isApart (hx : x.isSound) (h : x.isApart s) (rest : List Char) :
    x.turn? (s ++ rest) = none := by
  obtain ⟨h₁, h₂⟩ : x.start.isPrefixOf s = false ∧ s.isPrefixOf x.start = false := by
    simpa [isApart] using h
  rw [Option.eq_none_iff_forall_ne_some]
  intro turned hturn
  rcases List.prefix_or_prefix_of_prefix (start_prefix_of_turn? hx hturn)
    (List.prefix_append s rest) with hp | hp
  · rw [List.isPrefixOf_iff_prefix.2 hp] at h₁
    exact Bool.noConfusion h₁
  · rw [List.isPrefixOf_iff_prefix.2 hp] at h₂
    exact Bool.noConfusion h₂

end Form

/-! ### Quiet texts -/

/-- Whether a text begins with a tag whose name has a capital letter, or may do so together with
what stands behind it. -/
def mayOpenTag : List Char → Bool
  | ['<'] | ['<', '/'] => true
  | '<' :: '/' :: c :: _ => c.isUpper
  | '<' :: c :: _ => c.isUpper
  | _ => false

/-- Whether no tag whose name has a capital letter begins in a text, or may begin at its end. -/
def isQuiet : List Char → Bool
  | [] => true
  | c :: cs => !mayOpenTag (c :: cs) && isQuiet cs

theorem isQuiet_of_not_mem : ∀ {s : List Char}, '<' ∉ s → isQuiet s
  | [], _ => rfl
  | c :: cs, h => by
    obtain ⟨hc, hcs⟩ : '<' ≠ c ∧ '<' ∉ cs := by simpa using h
    have hmay : mayOpenTag (c :: cs) = false := by
      unfold mayOpenTag
      split <;> simp_all
    rw [isQuiet, hmay, isQuiet_of_not_mem hcs]
    rfl

theorem mayOpenTag_iff {s : List Char} : mayOpenTag s ↔ s = ['<'] ∨ s = ['<', '/'] ∨
    (∃ c, c.isUpper ∧ ['<', c] <+: s) ∨ ∃ c, c.isUpper ∧ ['<', '/', c] <+: s := by
  constructor
  · intro h
    unfold mayOpenTag at h
    split at h
    · exact .inl rfl
    · exact .inr (.inl rfl)
    · next c cs => exact .inr (.inr (.inr ⟨c, h, cs, rfl⟩))
    · next c cs _ _ => exact .inr (.inr (.inl ⟨c, h, cs, rfl⟩))
    · exact Bool.noConfusion h
  · rintro (rfl | rfl | ⟨c, hc, cs, rfl⟩ | ⟨c, hc, cs, rfl⟩)
    · rfl
    · rfl
    · have hslash : c ≠ '/' := by
        rintro rfl
        exact absurd hc (by decide)
      simpa [mayOpenTag, hslash] using hc
    · simpa [mayOpenTag] using hc

theorem isQuiet_iff {q : List Char} : isQuiet q ↔ ∀ v, v <:+ q → ¬ mayOpenTag v := by
  induction q with
  | nil => simp [isQuiet, mayOpenTag]
  | cons c cs ih =>
    rw [isQuiet, Bool.and_eq_true, Bool.not_eq_true', ih]
    constructor
    · rintro ⟨hmay, hcs⟩ v hv
      rcases List.suffix_cons_iff.1 hv with rfl | hv
      · simp [hmay]
      · exact hcs v hv
    · intro h
      exact ⟨by simpa using h _ (List.suffix_refl _),
        fun v hv => h v (hv.trans (List.suffix_cons c cs))⟩

theorem head_eq_of_mayOpenTag {c : Char} {cs : List Char} (h : mayOpenTag (c :: cs)) : c = '<' := by
  rcases mayOpenTag_iff.1 h with h | h | ⟨d, -, h⟩ | ⟨d, -, h⟩
  · exact (List.cons.inj h).1
  · exact (List.cons.inj h).1
  · exact (List.cons_prefix_cons.1 h).1.symm
  · exact (List.cons_prefix_cons.1 h).1.symm

theorem mayOpenTag_of_append {t : List Char} : ∀ {s : List Char}, s ≠ [] → mayOpenTag (s ++ t) →
    mayOpenTag s
  | [c], _, h => by
    obtain rfl := head_eq_of_mayOpenTag h
    rfl
  | [c, d], _, h => by
    obtain rfl := head_eq_of_mayOpenTag h
    by_cases hd : d = '/'
    · subst hd
      rfl
    · simpa [mayOpenTag, hd] using h
  | c :: d :: e :: s, _, h => by
    obtain rfl := head_eq_of_mayOpenTag h
    by_cases hd : d = '/'
    · subst hd
      exact h
    · simpa [mayOpenTag, hd] using h

theorem isQuiet_append {s t : List Char} (hs : isQuiet s) (ht : isQuiet t) : isQuiet (s ++ t) := by
  induction s with
  | nil => exact ht
  | cons c s ih =>
    obtain ⟨hmay, hcs⟩ : mayOpenTag (c :: s) = false ∧ isQuiet s := by simpa [isQuiet] using hs
    have hmay' : mayOpenTag (c :: (s ++ t)) = false := by
      rw [Bool.eq_false_iff] at hmay ⊢
      exact fun h => hmay (mayOpenTag_of_append (s := c :: s) (by simp) h)
    rw [List.cons_append, isQuiet, hmay', ih hcs]
    rfl

/-- Whether a text begins with a tag whose name has a capital letter. -/
def opensTag : List Char → Bool
  | '<' :: '/' :: c :: _ => c.isUpper
  | '<' :: c :: _ => c.isUpper
  | _ => false

theorem mayOpenTag_of_prefix {p v rest : List Char} (hp : opensTag p) (hv : v ≠ [])
    (h : p <+: v ++ rest) : mayOpenTag v := by
  obtain ⟨c, q, hc, hpq⟩ : ∃ c q, c.isUpper ∧ (p = '<' :: c :: q ∨ p = '<' :: '/' :: c :: q) := by
    unfold opensTag at hp
    split at hp
    · exact ⟨_, _, hp, .inr rfl⟩
    · exact ⟨_, _, hp, .inl rfl⟩
    · exact absurd hp (by simp)
  have hslash : c ≠ '/' := by
    rintro rfl
    exact absurd hc (by decide)
  obtain ⟨r, hr⟩ := h
  match v, hv with
  | [d], _ =>
    obtain rfl : '<' = d := by rcases hpq with rfl | rfl <;> exact (List.cons.inj hr).1
    rfl
  | d :: e :: v, _ =>
    rcases hpq with rfl | rfl
    · obtain ⟨rfl, htail⟩ := List.cons.inj hr
      obtain ⟨rfl, -⟩ := List.cons.inj htail
      simpa [mayOpenTag, hslash] using hc
    · obtain ⟨rfl, htail⟩ := List.cons.inj hr
      obtain ⟨rfl, hname⟩ := List.cons.inj htail
      cases v with
      | nil => rfl
      | cons f v =>
        obtain ⟨rfl, -⟩ := List.cons.inj hname
        exact hc

namespace Form

/-- A piece of text that every rule for tags leaves as it is. -/
def IsSteady (s : List Char) : Prop := ∀ x ∈ tagForms, Brings [x] s s

theorem IsSteady.append {s t : List Char} (hs : IsSteady s) (ht : IsSteady t) : IsSteady (s ++ t) :=
  fun x hx => (hs x hx).append (ht x hx)

theorem isSound_of_mem_tagForms {x : Form} (hx : x ∈ tagForms) : x.isSound :=
  isSound_of_mem (by simp [bootstrapForms, hx])

/-- The rules for tags leave quiet texts as they are. -/
theorem isSteady_of_isQuiet : ∀ {s : List Char}, isQuiet s → IsSteady s
  | [], _ => fun x _ => brings_nil [x]
  | c :: cs, h => fun x hx => by
    obtain ⟨hmay, hcs⟩ : mayOpenTag (c :: cs) = false ∧ isQuiet cs := by simpa [isQuiet] using h
    have hopens : ∀ x ∈ tagForms, opensTag x.start := by decide
    refine brings_cons (isSound_of_mem_tagForms hx) (fun rest => ?_) (isSteady_of_isQuiet hcs x hx)
    rw [Option.eq_none_iff_forall_ne_some]
    intro turned hturn
    have := mayOpenTag_of_prefix (v := c :: cs) (hopens x hx) (by simp)
      (start_prefix_of_turn? (isSound_of_mem_tagForms hx) hturn)
    rw [hmay] at this
    exact Bool.noConfusion this

theorem isSteady_of_not_mem {s : List Char} (h : '<' ∉ s) : IsSteady s :=
  isSteady_of_isQuiet (isQuiet_of_not_mem h)

/-- A piece that begins with a tag and that one of the rules for tags turns: the rules before must
not turn it, and nothing else in it must be turned. -/
theorem brings_of_turn? {before after : List Form} {x : Form}
    (hforms : tagForms = before ++ x :: after) {c : Char} {s put : List Char}
    (hbefore : ∀ y ∈ before, ∀ rest, y.turn? (c :: (s ++ rest)) = none) (hs : IsSteady s)
    (hturn : ∀ rest, x.turn? (c :: (s ++ rest)) = some (put, rest)) (hput : IsSteady put) :
    Brings tagForms (c :: s) put := by
  have hfirst : Brings before (c :: s) (c :: s) := brings_self fun y hy => by
    have hy' : y ∈ tagForms := by simp [hforms, hy]
    exact brings_cons (isSound_of_mem_tagForms hy') (hbefore y hy) (hs y hy')
  have hx : Brings [x] (c :: s) put := fun rest =>
    apply_of_turn? (isSound_of_mem_tagForms (by simp [hforms])) (hturn rest)
  have hlater : Brings after put put := brings_self fun y hy => hput y (by simp [hforms, hy])
  rw [hforms]
  have hrest : Brings ([x] ++ after) (c :: s) put := hx.trans hlater
  exact hfirst.trans hrest

end Form

end Restyle
