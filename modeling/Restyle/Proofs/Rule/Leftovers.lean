import Restyle.Proofs.Rule.Attributes
import Restyle.Proofs.Rule.Hits
import Restyle.Proofs.Rule.Markup
import Restyle.Proofs.Rule.Piecewise

/-!
# What the table leaves behind

No attribute that becomes a class is left in a text that the table has made, since the rules for
attributes come last and what they put in overlaps no attribute. With the closing tags of components
this is not so plain, as many rules come behind those for closing tags. What the rules for tags put
in begins and ends with an angle bracket. A closing tag has no such bracket inside, so it can come
into being only within what is put in, out of the attributes that are kept. If what ended the tag
behind them stands there again, a closing tag that ends there was there before. The rule for chips
alone puts the end of a tag directly behind attributes that had a slash behind them.

## Main definitions

* `Restyle.closingTag` — the closing tag of a component.
* `Restyle.Form.isTidy` — the forms for tags that make no closing tag.
* `Restyle.chipPlace` — the place of the rule for chips in the table.

## Main results

* `Restyle.Form.infix_of_infix_rewrites` — from what a form puts in to the texts that it makes.
* `Restyle.Form.infix_of_infix_put` — what tidy forms put in.
* `Restyle.Form.not_infix_applyAll_tagForms` — the rules for tags leave no closing tag.
* `Restyle.not_infix_apply` — what no text holds that the table has made.
-/

namespace Restyle

/-- The closing tag of a component. -/
def closingTag (name : String) : List Char := '<' :: '/' :: (name.toList ++ ['>'])

/-! ### Stretches of a text with something put in -/

section Stretch

variable {part v : List Char} {c : Char}

/-- A stretch begins only where its first character stands. -/
theorem infix_of_infix_append_of_not_mem : ∀ {u : List Char}, c ∉ u → c :: part <:+: u ++ v →
    c :: part <:+: v
  | [], _, h => h
  | d :: u, hc, h => by
    obtain ⟨hd, hu⟩ : c ≠ d ∧ c ∉ u := by simpa using hc
    rcases List.infix_cons_iff.1 h with hp | h
    · exact absurd (List.cons_prefix_cons.1 hp).1 hd
    · exact infix_of_infix_append_of_not_mem hu h

/-- A stretch does not reach over a character that stands in it at the end only. -/
theorem prefix_of_prefix_append_last (hc : c ∉ part) {u : List Char}
    (h : part ++ [c] <+: u ++ c :: v) : part ++ [c] <+: u ++ [c] := by
  have hu : u ++ [c] <+: u ++ c :: v := ⟨v, by simp⟩
  rcases List.prefix_or_prefix_of_prefix h hu with hp | hp
  · exact hp
  · rcases List.prefix_concat_iff.1 hp with heq | hp
    · rw [heq]
    · exact absurd (hp.subset (by simp)) hc

theorem infix_or_infix_of_last (hc : c ∉ part) : ∀ {u : List Char},
    part ++ [c] <:+: u ++ c :: v → part ++ [c] <:+: u ++ [c] ∨ part ++ [c] <:+: v
  | [], h => by
    rcases List.infix_cons_iff.1 h with hp | h
    · exact .inl (prefix_of_prefix_append_last (u := []) hc hp).isInfix
    · exact .inr h
  | d :: u, h => by
    rcases List.infix_cons_iff.1 h with hp | h
    · exact .inl (prefix_of_prefix_append_last (u := d :: u) hc hp).isInfix
    · exact (infix_or_infix_of_last hc h).imp_left (·.trans (List.suffix_cons d _).isInfix)

/-- A stretch that begins with two characters does not begin in a text without the second one,
unless the text ends with the first one. -/
theorem infix_of_infix_append_of_second {d : Char} :
    ∀ {u : List Char}, d ∉ u → u.getLast? ≠ some c →
    c :: d :: part <:+: u ++ v → c :: d :: part <:+: v
  | [], _, _, h => h
  | [e], _, hlast, h => by
    rcases List.infix_cons_iff.1 h with hp | h
    · exact absurd (by rw [(List.cons_prefix_cons.1 hp).1]; rfl) hlast
    · exact h
  | e :: f :: u, hd, hlast, h => by
    obtain ⟨-, hf, hu⟩ : d ≠ e ∧ d ≠ f ∧ d ∉ u := by simpa using hd
    rcases List.infix_cons_iff.1 h with hp | h
    · exact absurd (List.cons_prefix_cons.1 (List.cons_prefix_cons.1 hp).2).1 hf
    · exact infix_of_infix_append_of_second (by simp [hf, hu]) (by simpa using hlast) h

end Stretch

theorem IsClear.not_infix {part new : List Char} (h : IsClear part new) (hpart : part ≠ []) :
    ¬ part <:+: new := by
  intro hin
  obtain ⟨v, hp, hv⟩ := List.infix_iff_prefix_suffix.1 hin
  have hne : v ≠ [] := fun hnil => hpart (List.prefix_nil.1 (hnil ▸ hp))
  exact (h.2 v ((List.mem_tails _ _).2 hv) hne).2 hp

namespace Form

variable {x : Form} {part : List Char}

/-- What a form puts in is enclosed: it begins and ends with an angle bracket of a tag. -/
def IsEnclosed (put : List Char) : Prop := ∃ s, put = '<' :: (s ++ ['>'])

/-- What the text behind a form begins with, up to the next angle bracket, stood there before. -/
theorem prefix_of_prefix_rewrites
    (hput : ∀ {text put after}, x.turn? text = some (put, after) → IsEnclosed put)
    {n : Nat} {text out : List Char} (h : x.Rewrites n text out) (hpart : '<' ∉ part)
    (hp : part <+: out) : part <+: text := by
  induction h generalizing part with
  | nil => exact hp
  | @kept n c cs out h later ih =>
    cases part with
    | nil => exact List.nil_prefix
    | cons d part =>
      obtain ⟨rfl, htail⟩ := List.cons_prefix_cons.1 hp
      exact List.cons_prefix_cons.2 ⟨rfl, ih (List.not_mem_of_not_mem_cons hpart) htail⟩
  | turned h later ih =>
    obtain ⟨s, rfl⟩ := hput h
    cases part with
    | nil => exact List.nil_prefix
    | cons d part => exact absurd (by rw [(List.cons_prefix_cons.1 hp).1]; simp) hpart

/-- **A tag that stands in a text after a form** stood in the text before it, if it does so for what
the form puts in. -/
theorem infix_of_infix_rewrites (hx : x.isSound) {tag : List Char} (hopen : '<' ∉ tag)
    (hclose : '>' ∉ tag) (hput : ∀ {text put after}, x.turn? text = some (put, after) →
      IsEnclosed put ∧ ('<' :: tag ++ ['>'] <:+: put → '<' :: tag ++ ['>'] <:+: text))
    {n : Nat} {text out : List Char} (h : x.Rewrites n text out)
    (hin : '<' :: tag ++ ['>'] <:+: out) : '<' :: tag ++ ['>'] <:+: text := by
  induction h with
  | nil => exact hin
  | @kept n c cs out h later ih =>
    rcases List.infix_cons_iff.1 hin with hp | hin
    · obtain ⟨rfl, htail⟩ := List.cons_prefix_cons.1 hp
      have hname : '<' ∉ tag ++ ['>'] := by simp [hopen]
      have hcs := prefix_of_prefix_rewrites (fun h => (hput h).1) later hname htail
      exact (List.cons_prefix_cons.2 ⟨rfl, hcs⟩).isInfix
    · exact (ih hin).trans (List.suffix_cons c cs).isInfix
  | @turned n text put after out h later ih =>
    obtain ⟨⟨s, rfl⟩, hkept⟩ := hput h
    have htag : '>' ∉ '<' :: tag := by simp [hclose]
    have hsplit : '<' :: (s ++ ['>']) ++ out = ('<' :: s) ++ '>' :: out := by simp
    rw [hsplit] at hin
    rcases infix_or_infix_of_last htag hin with hin | hin
    · exact hkept hin
    · obtain ⟨u, -, -, rfl, -⟩ := exists_leads_of_turn? hx h
      exact (ih hin).trans (List.suffix_append u after).isInfix

/-! ### What the rules for tags put in -/

/-- Whether a text is the beginning of an opening tag and holds no other beginning of a tag. -/
def isOpeningStart : List Char → Bool
  | '<' :: c :: s => c != '/' && !(c :: s).contains '<'
  | _ => false

theorem exists_of_isOpeningStart {new : List Char} (h : isOpeningStart new) :
    ∃ c s, new = '<' :: c :: s ∧ c ≠ '/' ∧ '<' ∉ c :: s := by
  unfold isOpeningStart at h
  split at h
  · next c s => exact ⟨c, s, rfl, by simpa using h⟩
  · exact absurd h (by simp)

theorem infix_of_infix_isOpeningStart {new v : List Char} (hnew : isOpeningStart new)
    (h : '<' :: '/' :: part <:+: new ++ v) : '<' :: '/' :: part <:+: v := by
  obtain ⟨c, s, rfl, hslash, hopen⟩ := exists_of_isOpeningStart hnew
  rcases List.infix_cons_iff.1 h with hp | h
  · obtain ⟨-, htail⟩ := List.cons_prefix_cons.1 hp
    exact absurd (List.cons_prefix_cons.1 htail).1.symm hslash
  · exact infix_of_infix_append_of_not_mem (u := c :: s) hopen h

theorem isEnclosed_append {new : List Char} (hnew : isOpeningStart new) (cap : List Char) :
    IsEnclosed (new ++ (cap ++ ['>'])) := by
  obtain ⟨c, s, rfl, -⟩ := exists_of_isOpeningStart hnew
  exact ⟨c :: s ++ cap, by simp⟩

/-- Whether a form for tags can make no closing tag: the attributes that it keeps have the end of
the tag behind them before and afterwards, or white space afterwards. -/
def isTidy : Form → Bool
  | namedImport _ | packageImport | styleImport => false
  | variant _ new => isOpeningStart new.toList
  | element _ ending new finish => isOpeningStart new.toList &&
      (ending.toList == ['>'] && finish.toList == ['>'] || finish.toList == [' ', '/', '>'])
  | longField | field => true
  | words _ new => new.toList == '<' :: (new.toList.tail.dropLast ++ ['>']) &&
      containerNames.all fun name => decide (IsClear (closingTag name) new.toList)

/-- No closing tag ends where an element without content does. -/
theorem not_infix_append_slash {name cap : List Char} (hname : name ≠ []) (hslash : '/' ∉ name)
    (hclose : '>' ∉ cap) : ¬ '<' :: '/' :: (name ++ ['>']) <:+: cap ++ [' ', '/', '>'] := by
  rintro ⟨a, b, h⟩
  rcases List.eq_nil_or_concat b with rfl | ⟨b, d, rfl⟩
  · obtain ⟨s, c, rfl⟩ := (List.eq_nil_or_concat name).resolve_left hname
    have hall : ((a ++ '<' :: '/' :: s) ++ [c]) ++ ['>'] = ((cap ++ [' ']) ++ ['/']) ++ ['>'] := by
      simpa using h
    have hend := List.append_cancel_right hall
    obtain ⟨-, hc⟩ := List.append_inj' hend rfl
    exact hslash (by simp [hc])
  · have hsplit : (a ++ '<' :: '/' :: (name ++ '>' :: b)) ++ [d] =
        (cap ++ [' ', '/']) ++ ['>'] := by
      simpa using h
    obtain ⟨hcap, -⟩ := List.append_inj' hsplit rfl
    have hmem : '>' ∈ cap ++ [' ', '/'] := by simp [← hcap]
    exact hclose (by simpa using hmem)

/-- **What a tidy form puts in** holds no closing tag of a component that did not stand there
before. -/
theorem infix_of_infix_put (hx : x.isSound) (htidy : x.isTidy) {name : String}
    (hname : name ∈ containerNames) {text put after : List Char}
    (h : x.turn? text = some (put, after)) :
    IsEnclosed put ∧ (closingTag name <:+: put → closingTag name <:+: text) := by
  have hareas : ∀ name ∈ containerNames, ¬ closingTag name <:+: "</textarea>".toList := by decide
  have hletters : ∀ name ∈ containerNames, name.toList ≠ [] ∧ '/' ∉ name.toList := by decide
  obtain ⟨hne, hslash⟩ := hletters name hname
  cases x with
  | namedImport | packageImport | styleImport => exact absurd htidy (by simp [isTidy])
  | variant value new =>
    obtain ⟨w, cap, -, -, rfl, rfl⟩ := exists_of_turn?_variant hx h
    refine ⟨isEnclosed_append htidy cap, fun hin => ?_⟩
    have hcap := infix_of_infix_isOpeningStart htidy hin
    exact hcap.trans ⟨"<Button".toList ++ (w ++ ("variant=\"" ++ value ++ "\"").toList), after,
      by simp⟩
  | element tag ending new finish =>
    obtain ⟨cap, hcap, rfl, rfl⟩ := exists_of_turn?_element hx h
    obtain ⟨hnew, hfinish⟩ : isOpeningStart new.toList ∧ (ending.toList = ['>'] ∧
        finish.toList = ['>'] ∨ finish.toList = [' ', '/', '>']) := by simpa [isTidy] using htidy
    rcases hfinish with ⟨hending, hfinish⟩ | hfinish
    · rw [hfinish]
      refine ⟨isEnclosed_append hnew cap, fun hin => ?_⟩
      have hcap := infix_of_infix_isOpeningStart hnew hin
      exact hcap.trans ⟨tag.toList, after, by simp [hending]⟩
    · have hput : cap ++ finish.toList = (cap ++ [' ', '/']) ++ ['>'] := by simp [hfinish]
      rw [hput]
      refine ⟨isEnclosed_append hnew _, fun hin => ?_⟩
      have hcap' := infix_of_infix_isOpeningStart hnew hin
      exact absurd (by simpa using hcap') (not_infix_append_slash hne hslash hcap)
  | longField =>
    obtain ⟨w, cap, cap', -, hcap, hcap', -, -, rfl, rfl⟩ := exists_of_turn?_longField h
    have hnew : isOpeningStart "<textarea className=\"form-control\" ".toList := by decide
    have hput : cap ++ (" ".toList ++ (cap' ++ "></textarea>".toList)) =
        ((cap ++ ' ' :: cap') ++ ['>']) ++ "</textarea>".toList := by simp
    have hend : cap ++ (" ".toList ++ (cap' ++ "></textarea>".toList)) =
        (cap ++ ' ' :: (cap' ++ "></textarea".toList)) ++ ['>'] := by simp
    refine ⟨hend ▸ isEnclosed_append hnew _, fun hin => ?_⟩
    have hcaps := infix_of_infix_isOpeningStart hnew hin
    rw [hput] at hcaps
    have hlast := infix_of_infix_append_of_second (by simp [hcap, hcap'])
      (by rw [List.getLast?_concat]; simp) hcaps
    exact absurd hlast (hareas name hname)
  | field =>
    obtain ⟨w, cap, -, hcap, -, rfl, rfl⟩ := exists_of_turn?_field h
    have hnew : isOpeningStart "<input className=\"form-control\" ".toList := by decide
    have hput : cap ++ " />".toList = (cap ++ [' ']) ++ ['/', '>'] := by simp
    have hend : cap ++ " />".toList = (cap ++ [' ', '/']) ++ ['>'] := by simp
    refine ⟨hend ▸ isEnclosed_append hnew _, fun hin => ?_⟩
    have hcap' := infix_of_infix_isOpeningStart hnew hin
    rw [hput] at hcap'
    have hlast := infix_of_infix_append_of_second (by simp [hcap]) (by simp) hcap'
    exact absurd (hlast.subset List.mem_cons_self) (by decide)
  | words old new =>
    obtain ⟨rfl, rfl⟩ := (turn?_words_iff hx).1 h
    obtain ⟨hput, hclear⟩ : new.toList = '<' :: (new.toList.tail.dropLast ++ ['>']) ∧
        ∀ name ∈ containerNames, IsClear (closingTag name) new.toList := by
          simpa [isTidy] using htidy
    have hnot := IsClear.not_infix (hclear name hname) (by simp [closingTag])
    exact ⟨⟨_, hput⟩, fun hin => absurd hin hnot⟩

theorem isTidy_of_mem : ∀ x ∈ tagForms.take 23, x.isTidy := by decide +kernel

/-- Tidy forms make no closing tag of a component. -/
theorem infix_of_infix_applyAll {name : String} (hname : name ∈ containerNames) {xs : List Form}
    (hsound : ∀ x ∈ xs, x.isSound) (htidy : ∀ x ∈ xs, x.isTidy) {text : List Char}
    (h : closingTag name <:+: applyAll xs text) : closingTag name <:+: text := by
  induction xs generalizing text with
  | nil => exact h
  | cons x xs ih =>
    obtain ⟨hx, hxs⟩ := List.forall_mem_cons.1 hsound
    obtain ⟨hx', hxs'⟩ := List.forall_mem_cons.1 htidy
    have hletters : ∀ name ∈ containerNames, '<' ∉ '/' :: name.toList ∧
        '>' ∉ '/' :: name.toList := by
      decide
    obtain ⟨hopen, hclose⟩ := hletters name hname
    exact infix_of_infix_rewrites hx hopen hclose (infix_of_infix_put hx hx' hname)
      (rewrites_apply hx text) (ih hxs hxs' h)

/-- **The rules for tags leave no closing tag**, the rule for chips apart. -/
theorem not_infix_applyAll_tagForms {name : String} (hname : name ∈ containerNames)
    (text : List Char) :
    ¬ closingTag name <:+: applyAll (tagForms.take 23) text := by
  have hcloses : ∀ name ∈ containerNames, (tagForms.take 23).any (isClosing name) := by decide
  obtain ⟨x, hx, hcloses⟩ : ∃ x ∈ tagForms.take 23, x.isClosing name := by
    simpa using hcloses name hname
  obtain ⟨before, after, hforms⟩ := List.append_of_mem hx
  have hsound : ∀ y ∈ tagForms.take 23, y.isSound := fun y hy =>
    isSound_of_mem_tagForms (List.mem_of_mem_take hy)
  cases x with
  | words old new =>
    have hold : old.toList = closingTag name := by simpa [isClosing, closingTag] using hcloses
    have htidy := isTidy_of_mem _ hx
    obtain ⟨-, hclear⟩ : new.toList = '<' :: (new.toList.tail.dropLast ++ ['>']) ∧
        ∀ name ∈ containerNames, IsClear (closingTag name) new.toList := by
          simpa [isTidy] using htidy
    intro h
    rw [hforms, applyAll_append] at h
    -- behind the rule for this tag none is made, and the rule itself leaves none
    have hlater : closingTag name <:+: (words old new).apply (applyAll before text) :=
      infix_of_infix_applyAll hname (fun y hy => hsound y (by simp [hforms, hy]))
        (fun y hy => isTidy_of_mem y (by simp [hforms, hy])) h
    rw [apply_words (hsound _ hx)] at hlater
    obtain ⟨v, -, hp, hkept⟩ :=
      exists_kept_of_infix_replaceText (hclear name hname) (by simp [closingTag]) hlater
    exact hkept (hold ▸ hp)
  | _ => simp [isClosing] at hcloses

end Form

/-- The place of the rule for chips in the table. -/
def chipPlace : Nat := 28

/-- The form of the rule for chips. -/
def chip : Form := .selfClosing "Chip" "<span className=\"badge bg-secondary\"" "></span>"

theorem getElem?_chipPlace : bootstrapRules[chipPlace]? = chipRules.head? := rfl

/-- The rule for chips has its form, and the rules before it have theirs. -/
theorem exists_getElem?_chipPlace :
    (∃ r, bootstrapRules[chipPlace]? = some r ∧ r.HasForm chip) ∧
      List.Forall₂ Rule.HasForm (bootstrapRules.take chipPlace)
        (importForms ++ tagForms.take 23) := by
  have hchip : List.Forall₂ Rule.HasForm chipRules [chip] := List.forall₂_drop 23 forall₂_tagRules
  refine ⟨?_, List.forall₂_take chipPlace forall₂_bootstrapRules⟩
  rw [getElem?_chipPlace]
  cases hchip with
  | cons hform _ => exact ⟨_, rfl, hform⟩

/-- The rule for chips leaves the text alone that the rules before it have made, if it is not
reported. -/
theorem chip_apply_eq_self {text : String}
    (h : ∀ hit ∈ (bootstrapRules.report text).2, hit.index ≠ chipPlace) :
    chip.apply (Form.applyAll (importForms ++ tagForms.take 23) text.toList) =
      Form.applyAll (importForms ++ tagForms.take 23) text.toList := by
  obtain ⟨⟨r, hr, hform⟩, hbefore⟩ := exists_getElem?_chipPlace
  have hhits : r.hits (RuleSet.applyChars (bootstrapRules.take chipPlace) text.toList) = 0 := by
    by_contra hmatch
    rw [RuleSet.snd_report] at h
    exact h _ (RuleSet.mem_reportFrom_iff.2 ⟨chipPlace, r, hr, hmatch, rfl⟩)
      (Nat.zero_add chipPlace)
  rw [hform.hits_eq, applyChars_eq_of_hasForm hbefore] at hhits
  exact Form.apply_eq_self_of_hits_eq_zero (Form.isSound_of_mem_tagForms (by decide)) hhits

/-- **What no text holds that the table has made**: no attribute that becomes a class, and no
closing tag of a component, unless the rule for chips has a match. -/
theorem not_infix_apply (text : String) :
    (∀ a ∈ attributeTexts, ¬ a.toList <:+: (bootstrapRules.apply text).toList) ∧
    ((∀ hit ∈ (bootstrapRules.report text).2, hit.index ≠ chipPlace) →
      ∀ name ∈ containerNames,
        ¬ ("</" ++ name ++ ">").toList <:+: (bootstrapRules.apply text).toList) := by
  have hforms : (bootstrapRules.apply text).toList =
      classes (chip.apply (Form.applyAll (importForms ++ tagForms.take 23) text.toList)) := by
    have hsplit : bootstrapForms = importForms ++ tagForms.take 23 ++ [chip] ++ attributeForms :=
      rfl
    have happly : bootstrapRules.applyChars text.toList =
        Form.applyAll bootstrapForms text.toList :=
      applyChars_eq_of_hasForm forall₂_bootstrapRules _
    rw [RuleSet.apply, String.toList_ofList, happly, hsplit, Form.applyAll_append,
      Form.applyAll_append, Form.applyAll_attributeForms, Form.applyAll_singleton]
  rw [hforms]
  constructor
  · have htexts : attributeTexts = attributeClasses.map (·.1) := by decide
    rw [htexts, List.forall_mem_map]
    exact not_infix_classes _
  · intro h name hname hin
    have hclear : ∀ name ∈ containerNames, ∀ c ∈ attributeClasses,
        IsClear (closingTag name) c.2.toList := by
      decide +kernel
    have htag : ("</" ++ name ++ ">").toList = closingTag name := by simp [closingTag]
    rw [chip_apply_eq_self h, Form.applyAll_append, htag, classes] at hin
    exact Form.not_infix_applyAll_tagForms hname _
      (infix_of_infix_replaceTexts (by simp [closingTag]) (hclear name hname) hin)

/-- A box with its closing tag in an attribute. -/
def titledBox : String := "<Box title=\"</Box>\" fullWidth>x</Box>"

theorem not_infix_apply_titledBox :
    (∀ hit ∈ (bootstrapRules.report titledBox).2, hit.index ≠ chipPlace) ∧ "Box" ∈ containerNames ∧
    bootstrapRules.apply titledBox = "<div title=\"</div>\" className=\"w-100\">x</div>" ∧
    ¬ ("</" ++ "Box" ++ ">").toList <:+: (bootstrapRules.apply titledBox).toList := by
  have hhit : ∀ hit ∈ (bootstrapRules.report titledBox).2, hit.index ≠ chipPlace := by
    intro hit hhit hindex
    rw [RuleSet.snd_report] at hhit
    obtain ⟨i, r, hr, hmatch, rfl⟩ := RuleSet.mem_reportFrom_iff.1 hhit
    obtain rfl : i = chipPlace := by simpa using hindex
    obtain ⟨⟨r', hr', hform⟩, hbefore⟩ := exists_getElem?_chipPlace
    obtain rfl : r = r' := Option.some.inj (hr.symm.trans hr')
    rw [hform.hits_eq, applyChars_eq_of_hasForm hbefore] at hmatch
    exact absurd hmatch (by decide +kernel)
  refine ⟨hhit, by decide, ?_, (not_infix_apply titledBox).2 hhit "Box" (by decide)⟩
  rw [RuleSet.apply, applyChars_eq_of_hasForm forall₂_bootstrapRules]
  decide +kernel

-- A chip ends directly behind its attributes, where a slash stood.
example : bootstrapRules.apply "<Chip a=</Box/>" =
    "<span className=\"badge bg-secondary\" a=</Box></span>" := by
  rw [RuleSet.apply, applyChars_eq_of_hasForm forall₂_bootstrapRules]
  decide +kernel

end Restyle
