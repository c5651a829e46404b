import Restyle.Proofs.Rule.Turn

/-!
# How much of a text is left to convert

The *load* of a text counts what the rules of the table can take hold of: the beginnings of the tags
of components and of the attributes that become classes count once, and the sign `@`, which stands
in the name of every package, counts twice. Where two texts are joined, one more of these beginnings
can come into being, and no more, since they do not overlap. What a form puts in has no load and
joins with nothing. An import that is removed may join the texts around it, but takes its sign with
it. So every match lowers the load.

## Main definitions

* `Restyle.load` — the load of a text.
* `Restyle.isSettled` — the texts without load that join with nothing.

## Main results

* `Restyle.load_le` — the load is at most twice the number of characters.
* `Restyle.le_load_append`, `Restyle.load_append_le` — the load of two texts together.
* `Restyle.Form.load_turn_lt` — every match lowers the load.
* `Restyle.Form.load_apply_add_hits_le` — the load after a form.
-/

namespace Restyle

/-- The letters with which the names of the components begin. -/
def initials : List Char := ['B', 'C', 'F', 'I', 'M', 'R', 'S', 'T']

/-- The beginnings of the tags of components and of the attributes that become classes. -/
def loadStarts : List (List Char) :=
  ["color=\"".toList, "size=\"".toList, "fullWidth".toList] ++
    initials.map (['<', ·]) ++ initials.map (['<', '/', ·])

/-- What the first character of a text adds to the load. -/
def headLoad (text : List Char) : Nat :=
  if text.head? = some '@' then 2
  else if loadStarts.any (·.isPrefixOf text) then 1 else 0

/-- The load of a text. -/
def load : List Char → Nat
  | [] => 0
  | c :: cs => headLoad (c :: cs) + load cs

theorem headLoad_le (text : List Char) : headLoad text ≤ 2 := by
  unfold headLoad
  split
  · exact Nat.le_refl 2
  · split <;> omega

/-- The load is at most twice the number of characters. -/
theorem load_le : ∀ text : List Char, load text ≤ 2 * text.length
  | [] => Nat.le_refl 0
  | c :: cs => by
    have hhead := headLoad_le (c :: cs)
    have hrest := load_le cs
    rw [load, List.length_cons]
    omega

/-! ### Joining two texts -/

/-- Whether nothing that adds to the load begins with a character. -/
def isInner (c : Char) : Bool := c != '@' && c != '<' && c != 'c' && c != 's' && c != 'f'

/-- Whether nothing that adds to the load is joined before a character. -/
def isStop (c : Char) : Bool := c == '<' || c == '>' || c == ' ' || c == 'c'

theorem headLoad_eq_zero_of_isInner {c : Char} (hc : isInner c) (cs : List Char) :
    headLoad (c :: cs) = 0 := by
  have hsign : c ≠ '@' := by
    rintro rfl
    exact absurd hc (by decide)
  have hstarts (s : List Char) (hs : s ∈ loadStarts) : s.head? ≠ some c := by
    intro hhead
    have : ∀ s ∈ loadStarts, ∀ c ∈ s.head?, ¬ isInner c := by decide
    exact this s hs c hhead hc
  have hany : loadStarts.any (·.isPrefixOf (c :: cs)) = false := by
    rw [List.any_eq_false]
    intro s hs hp
    refine hstarts s hs ?_
    obtain ⟨r, hr⟩ := List.isPrefixOf_iff_prefix.1 hp
    cases s with
    | nil => exact absurd hs (by decide)
    | cons d s => rw [List.head?_cons, (List.cons.inj hr).1]
  rw [headLoad, if_neg (by simpa using hsign), hany]
  rfl

theorem load_append_of_isInner : ∀ {u : List Char}, (∀ c ∈ u, isInner c) → ∀ v : List Char,
    load (u ++ v) = load v
  | [], _, _ => rfl
  | c :: u, hu, v => by
    rw [List.cons_append, load, headLoad_eq_zero_of_isInner (hu c (by simp)),
      load_append_of_isInner (fun d hd => hu d (by simp [hd])) v, Nat.zero_add]

/-- Behind the first character of what adds to the load, nothing can add to it. -/
theorem isInner_of_mem_tail {s : List Char} (hs : s ∈ loadStarts) {c : Char} (hc : c ∈ s.tail) :
    isInner c := by
  have : ∀ s ∈ loadStarts, ∀ c ∈ s.tail, isInner c := by decide +kernel
  exact this s hs c hc

theorem not_isStop_of_mem_tail {s : List Char} (hs : s ∈ loadStarts) {c : Char} (hc : c ∈ s.tail) :
    ¬ isStop c := by
  have : ∀ s ∈ loadStarts, ∀ c ∈ s.tail, ¬ isStop c := by decide +kernel
  exact this s hs c hc

/-- The first character adds as much with more text behind it, or else it begins something that
reaches into the text behind, and then no other character before does. -/
theorem headLoad_append (c : Char) (u v : List Char) :
    headLoad (c :: (u ++ v)) = headLoad (c :: u) ∨
      headLoad (c :: (u ++ v)) = 1 ∧ headLoad (c :: u) = 0 ∧
        ∃ s ∈ loadStarts, (c :: u) <+: s ∧ s <+: c :: (u ++ v) ∧ ¬ s <+: c :: u := by
  by_cases hc : c = '@'
  · simp [headLoad, hc]
  by_cases hu : loadStarts.any (·.isPrefixOf (c :: u))
  · left
    obtain ⟨s, hs, hp⟩ := List.any_eq_true.1 hu
    have huv : loadStarts.any (·.isPrefixOf (c :: (u ++ v))) :=
      List.any_eq_true.2 ⟨s, hs, List.isPrefixOf_iff_prefix.2
        ((List.isPrefixOf_iff_prefix.1 hp).trans (List.prefix_append (c :: u) v))⟩
    simp [headLoad, hc, hu, huv]
  by_cases huv : loadStarts.any (·.isPrefixOf (c :: (u ++ v)))
  · right
    obtain ⟨s, hs, hp⟩ := List.any_eq_true.1 huv
    have hp := List.isPrefixOf_iff_prefix.1 hp
    have hnot : ¬ s <+: c :: u := fun h =>
      hu (List.any_eq_true.2 ⟨s, hs, List.isPrefixOf_iff_prefix.2 h⟩)
    refine ⟨by simp [headLoad, hc, huv], by simp [headLoad, hc, hu], s, hs, ?_, hp, hnot⟩
    exact (List.prefix_or_prefix_of_prefix hp (List.prefix_append (c :: u) v)).resolve_left hnot
  · left
    simp [headLoad, hc, hu, huv]

/-- The load of two texts is part of their load together. -/
theorem le_load_append : ∀ u v : List Char, load u + load v ≤ load (u ++ v)
  | [], v => by simp [load]
  | c :: u, v => by
    have ih := le_load_append u v
    rw [List.cons_append, load, load]
    rcases headLoad_append c u v with h | ⟨h, h', -⟩ <;> omega

theorem sum_load_le : ∀ parts : List (List Char), (parts.map load).sum ≤ load parts.flatten
  | [] => Nat.le_refl 0
  | part :: parts => by
    have ih := sum_load_le parts
    have := le_load_append part parts.flatten
    rw [List.map_cons, List.sum_cons, List.flatten_cons]
    omega

/-- Joining two texts adds at most one to the load. -/
theorem load_append_le : ∀ u v : List Char, load (u ++ v) ≤ load u + load v + 1
  | [], v => by simp [load]
  | c :: u, v => by
    rw [List.cons_append, load, load]
    rcases headLoad_append c u v with h | ⟨h, h', s, hs, hp, -⟩
    · have ih := load_append_le u v
      omega
    · have hu : ∀ d ∈ u, isInner d := fun d hd => isInner_of_mem_tail hs (by
        obtain ⟨r, rfl⟩ := hp
        simp [hd])
      have := load_append_of_isInner hu v
      omega

/-- Nothing is joined before a stop. -/
theorem load_append_of_isStop {d : Char} (hd : isStop d) (v : List Char) : ∀ u : List Char,
    load (u ++ d :: v) = load u + load (d :: v)
  | [] => by simp [load]
  | c :: u => by
    rw [List.cons_append, load, load, load_append_of_isStop hd v u]
    rcases headLoad_append c u (d :: v) with h | ⟨-, -, s, hs, ⟨r, rfl⟩, hp, hnot⟩
    · omega
    · rw [List.cons_append, List.cons_prefix_cons] at hp
      have hd' : d ∉ u ++ r := fun h => not_isStop_of_mem_tail hs (c := d) h hd
      exact absurd ((List.cons_prefix_cons.2 ⟨rfl, prefix_of_prefix_append_cons hd' hp.2⟩)) hnot

/-! ### Texts that are settled -/

/-- Whether no character of a text adds to the load, whatever stands behind the text. -/
def isInert : List Char → Bool
  | [] => true
  | c :: cs =>
    (isInner c || c != '@' &&
      loadStarts.all fun s => !(s.isPrefixOf (c :: cs) || (c :: cs).isPrefixOf s)) && isInert cs

/-- Whether a text has no load and joins neither with the text before nor with that behind. -/
def isSettled (text : List Char) : Bool := text.head?.any isStop && isInert text

theorem load_append_of_isInert : ∀ {u : List Char}, isInert u → ∀ v : List Char,
    load (u ++ v) = load v
  | [], _, _ => rfl
  | c :: u, hu, v => by
    obtain ⟨hc, hu⟩ : (isInner c ∨ c ≠ '@' ∧ ∀ s ∈ loadStarts,
        s.isPrefixOf (c :: u) = false ∧ (c :: u).isPrefixOf s = false) ∧ isInert u := by
      simpa [isInert] using hu
    have hhead : headLoad (c :: (u ++ v)) = 0 := by
      rcases hc with hc | ⟨hsign, hstarts⟩
      · exact headLoad_eq_zero_of_isInner hc (u ++ v)
      · have hany : loadStarts.any (·.isPrefixOf (c :: (u ++ v))) = false := by
          rw [List.any_eq_false]
          intro s hs hp
          obtain ⟨h, h'⟩ := hstarts s hs
          rcases List.prefix_or_prefix_of_prefix (List.isPrefixOf_iff_prefix.1 hp)
            (List.prefix_append (c :: u) v) with hp | hp
          · rw [List.isPrefixOf_iff_prefix.2 hp] at h
            exact Bool.noConfusion h
          · rw [List.isPrefixOf_iff_prefix.2 hp] at h'
            exact Bool.noConfusion h'
        rw [headLoad, if_neg (by simpa using hsign), hany]
        rfl
    rw [List.cons_append, load, hhead, load_append_of_isInert hu v, Nat.zero_add]

/-- A settled text between two texts. -/
theorem load_append_of_isSettled {s : List Char} (hs : isSettled s) (u v : List Char) :
    load (u ++ (s ++ v)) = load u + load v := by
  obtain ⟨hhead, hinert⟩ : s.head?.any isStop ∧ isInert s := by simpa [isSettled] using hs
  cases s with
  | nil => exact absurd hhead (by decide)
  | cons c s =>
    rw [List.cons_append, load_append_of_isStop hhead, ← List.cons_append,
      load_append_of_isInert hinert]

/-! ### Every match lowers the load -/

namespace Form

/-- What a form that is not for imports looks for begins with a load, and what it puts in around the
attributes that it keeps is settled. -/
def isLight : Form → Bool
  | namedImport _ | packageImport | styleImport => false
  | variant _ new => isSettled new.toList
  | element tag _ new finish =>
    headLoad tag.toList != 0 && isSettled new.toList && isSettled finish.toList
  | longField | field => true
  | words old new => headLoad old.toList != 0 && isSettled new.toList

theorem mem_importForms_or_isLight {x : Form} (hx : x ∈ bootstrapForms) :
    x ∈ importForms ∨ x.isLight := by
  have hlight : ∀ x ∈ tagForms ++ attributeForms, x.isLight := by decide +kernel
  exact (mem_bootstrapForms_iff.1 hx).imp_right (hlight x)

theorem load_ne_zero {text : List Char} (h : headLoad text ≠ 0) : load text ≠ 0 := by
  cases text with
  | nil => exact absurd h (by decide)
  | cons c cs =>
    rw [load]
    omega

theorem load_append_ne_zero {u : List Char} (h : load u ≠ 0) (v : List Char) :
    load (u ++ v) ≠ 0 := by
  have := le_load_append u v
  omega

/-- Removing a text with the sign `@` lowers the load. -/
theorem load_remove_lt {u : List Char} (hu : '@' ∈ u) (before after : List Char) :
    load (before ++ after) < load (before ++ (u ++ after)) := by
  have hload : 2 ≤ load u := by
    obtain ⟨a, b, rfl⟩ := List.append_of_mem hu
    have := le_load_append a ('@' :: b)
    rw [load, show headLoad ('@' :: b) = 2 from rfl] at this
    omega
  have hjoin := load_append_le before after
  have hparts := sum_load_le [before, u, after]
  simp only [List.map_cons, List.map_nil, List.sum_cons, List.sum_nil, List.flatten_cons,
    List.flatten_nil, List.append_nil] at hparts
  omega

/-- Putting settled texts around a text, in place of texts of which the first has a load, lowers the
load. -/
theorem load_wrap_lt {new finish tag : List Char} (hnew : isSettled new)
    (hfinish : isSettled finish) (htag : load tag ≠ 0) (before cap ending after : List Char) :
    load (before ++ (new ++ (cap ++ (finish ++ after)))) <
      load (before ++ (tag ++ (cap ++ (ending ++ after)))) := by
  rw [load_append_of_isSettled hnew, load_append_of_isSettled hfinish]
  have hparts := sum_load_le [before, tag, cap, ending, after]
  simp only [List.map_cons, List.map_nil, List.sum_cons, List.sum_nil, List.flatten_cons,
    List.flatten_nil, List.append_nil] at hparts
  omega

/-- **Every match lowers the load**, whatever stands before it. -/
theorem load_turn_lt {x : Form} (hx : x ∈ bootstrapForms) {text put after : List Char}
    (h : x.turn? text = some (put, after)) (before : List Char) :
    load (before ++ (put ++ after)) < load (before ++ text) := by
  rcases mem_importForms_or_isLight hx with himport | hlight
  · obtain ⟨u, rfl, hu, rfl⟩ := exists_mem_of_turn?_import himport h
    exact load_remove_lt hu before after
  · cases x with
    | namedImport | packageImport | styleImport => exact absurd hlight (by simp [isLight])
    | variant value new =>
      obtain ⟨w, cap, -, -, rfl, rfl⟩ := exists_of_turn?_variant (isSound_of_mem hx) h
      have htag := load_append_ne_zero (u := "<Button".toList) (by decide)
        (w ++ ("variant=\"" ++ value ++ "\"").toList)
      have hfinish : isSettled ">".toList := by decide
      have := load_wrap_lt hlight hfinish htag before cap ">".toList after
      simpa only [List.append_assoc] using this
    | element tag ending new finish =>
      obtain ⟨cap, -, rfl, rfl⟩ := exists_of_turn?_element (isSound_of_mem hx) h
      obtain ⟨⟨htag, hnew⟩, hfinish⟩ :
          (headLoad tag.toList ≠ 0 ∧ isSettled new.toList) ∧ isSettled finish.toList := by
        simpa [isLight] using hlight
      simp only [List.append_assoc]
      exact load_wrap_lt hnew hfinish (load_ne_zero htag) before cap ending.toList after
    | longField =>
      obtain ⟨w, cap, cap', -, -, -, -, -, rfl, rfl⟩ := exists_of_turn?_longField h
      simp only [List.append_assoc]
      rw [load_append_of_isSettled (by decide), load_append_of_isSettled (by decide),
        load_append_of_isSettled (by decide)]
      have h₀ := load_append_ne_zero (u := "<TextField".toList) (by decide) w
      have hparts := sum_load_le [before, "<TextField".toList ++ w, cap, "multiline".toList, cap',
        "/>".toList, after]
      simp only [List.map_cons, List.map_nil, List.sum_cons, List.sum_nil, List.flatten_cons,
        List.flatten_nil, List.append_nil, List.append_assoc] at hparts
      omega
    | field =>
      obtain ⟨w, cap, -, -, -, rfl, rfl⟩ := exists_of_turn?_field h
      have htag := load_append_ne_zero (u := "<TextField".toList) (by decide) w
      have hnew : isSettled "<input className=\"form-control\" ".toList := by decide
      have hfinish : isSettled " />".toList := by decide
      have := load_wrap_lt hnew hfinish htag before cap "/>".toList after
      simpa only [List.append_assoc] using this
    | words old new =>
      obtain ⟨rfl, rfl⟩ := (turn?_words_iff (isSound_of_mem hx)).1 h
      obtain ⟨hold, hnew⟩ : headLoad old.toList ≠ 0 ∧ isSettled new.toList := by
        simpa [isLight] using hlight
      rw [load_append_of_isSettled hnew]
      have h₀ := load_ne_zero hold
      have hparts := sum_load_le [before, old.toList, after]
      simp only [List.map_cons, List.map_nil, List.sum_cons, List.sum_nil, List.flatten_cons,
        List.flatten_nil, List.append_nil] at hparts
      omega

theorem load_append_add_le_of_rewrites {x : Form} (hx : x ∈ bootstrapForms) {n : Nat}
    {text out : List Char} (h : x.Rewrites n text out) (before : List Char) :
    load (before ++ out) + n ≤ load (before ++ text) := by
  induction h generalizing before with
  | nil => exact Nat.le_refl _
  | @kept n c cs out h later ih =>
    have := ih (before ++ [c])
    simpa only [List.append_assoc, List.cons_append, List.nil_append] using this
  | @turned n text put after out h later ih =>
    have hturn := load_turn_lt hx h before
    have hlater := ih (before ++ put)
    simp only [List.append_assoc] at hlater
    omega

/-- The load after a form, together with the number of its matches, is at most the load before. -/
theorem load_apply_add_hits_le {x : Form} (hx : x ∈ bootstrapForms) (text : List Char) :
    load (x.apply text) + x.hits text ≤ load text :=
  load_append_add_le_of_rewrites hx (rewrites_apply (isSound_of_mem hx) text) []

end Form

end Restyle
