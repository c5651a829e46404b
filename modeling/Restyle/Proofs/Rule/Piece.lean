import Restyle.Proofs.Rule.Attributes
import Restyle.Text.Cut

/-!
# Pieces of documents

A document is made of pieces: text without tags of components, the opening and closing tags of
components, elements without content and text fields. A tag gets a new name and its classes, and the
attributes that stand in it are kept. Text and attributes change only by what is to be done with
them everywhere.

## Main definitions

* `Restyle.Container`, `Restyle.Single`, `Restyle.Variant` — the components and what they become.
* `Restyle.Piece`, `Restyle.Piece.source`, `Restyle.Piece.target` — the pieces of a document, what
  they look like and what they become.
* `Restyle.Piece.IsValid` — what a piece may hold.

## Main results

* `Restyle.isText_iff` — text without tags of components is quiet.
-/

namespace Restyle

/-- The components that have content. -/
inductive Container where
  | button
  | select
  | menuItem
  | formControl
  | inputLabel
  | formControlLabel
  | radioGroup
  | box
  deriving DecidableEq

namespace Container

/-- The name of a component. -/
def name : Container → String
  | button => "Button"
  | select => "Select"
  | menuItem => "MenuItem"
  | formControl => "FormControl"
  | inputLabel => "InputLabel"
  | formControlLabel => "FormControlLabel"
  | radioGroup => "RadioGroup"
  | box => "Box"

/-- What becomes of the opening tag of a component, before its attributes. The tag of a labelled
control begins like that of a form control and is converted as one. -/
def opening : Container → String
  | button => "<button className=\"btn btn-primary\""
  | select => "<select className=\"form-select\""
  | menuItem => "<option"
  | formControl => "<div className=\"mb-3\""
  | inputLabel => "<label className=\"form-label\""
  | formControlLabel => "<div className=\"mb-3\"Label"
  | radioGroup => "<div"
  | box => "<div"

/-- What becomes of the closing tag of a component. -/
def closing : Container → String
  | button => "</button>"
  | select => "</select>"
  | menuItem => "</option>"
  | inputLabel => "</label>"
  | formControl | formControlLabel | radioGroup | box => "</div>"

end Container

/-- The components without content. -/
inductive Single where
  | checkbox
  | radio
  | chip

namespace Single

/-- The name of a component without content. -/
def name : Single → String
  | checkbox => "Checkbox"
  | radio => "Radio"
  | chip => "Chip"

/-- What becomes of a component without content, before its attributes. -/
def opening : Single → String
  | checkbox => "<input type=\"checkbox\" className=\"form-check-input\""
  | radio => "<input type=\"radio\" className=\"form-check-input\""
  | chip => "<span className=\"badge bg-secondary\""

/-- What becomes of a component without content, behind its attributes. -/
def finish : Single → String
  | checkbox | radio => " />"
  | chip => "></span>"

end Single

/-- The variants of buttons. -/
inductive Variant where
  | contained
  | outlined
  | text
  deriving DecidableEq

namespace Variant

/-- The name of a variant. -/
def name : Variant → String
  | contained => "contained"
  | outlined => "outlined"
  | text => "text"

/-- All variants. -/
def all : List Variant := [contained, outlined, text]

/-- The attribute that gives the variant of a button. -/
def code (v : Variant) : String := "variant=\"" ++ v.name ++ "\""

/-- What becomes of the opening tag of a button of a variant, before its other attributes. -/
def opening : Variant → String
  | contained => "<button className=\"btn btn-primary\""
  | outlined => "<button className=\"btn btn-outline-primary\""
  | text => "<button className=\"btn btn-link\""

end Variant

/-- The pieces of a document. -/
inductive Piece where
  /-- text without tags of components -/
  | text (q : List Char)
  /-- the opening tag of a component, with attributes -/
  | opening (c : Container) (a : List Char)
  /-- the opening tag of a button of a variant, with white space before the variant -/
  | variant (w : List Char) (v : Variant) (a : List Char)
  /-- the closing tag of a component -/
  | closing (c : Container)
  /-- an element without content, with attributes -/
  | single (s : Single) (a : List Char)
  /-- a text field, with white space before its attributes -/
  | field (w a : List Char)

/-- A text behind the white space at its beginning. -/
theorem exists_dropWhile_isBlank (a : List Char) : ∃ b a', a = b ++ a' ∧ (∀ c ∈ b, Text.isBlank c) ∧
    (∀ c ∈ a'.head?, ¬ Text.isBlank c) ∧ a.dropWhile Text.isBlank = a' := by
  refine ⟨a.takeWhile Text.isBlank, a.dropWhile Text.isBlank, by simp, fun c hc => ?_,
    fun c hc => ?_, rfl⟩
  · exact List.all_eq_true.1 List.all_takeWhile c hc
  · have := List.head?_dropWhile_not Text.isBlank a
    rw [Option.mem_def.1 hc] at this
    simpa using this

/-- Text without tags of components: it is not empty, no tag whose name has a capital letter begins
in it, and it does not end with the beginning of a tag. -/
structure IsText (q : List Char) : Prop where
  ne_nil : q ≠ []
  not_opening : ∀ c, c.isUpper → ¬ ['<', c] <:+: q
  not_closing : ∀ c, c.isUpper → ¬ ['<', '/', c] <:+: q
  not_end : ¬ ['<'] <:+ q
  not_end_slash : ¬ ['<', '/'] <:+ q

/-- Attributes of a tag: no angle brackets, and white space before them. -/
structure IsAttributes (a : List Char) : Prop where
  not_open : '<' ∉ a
  not_close : '>' ∉ a
  blank : ∀ c ∈ a.head?, Text.isBlank c

/-- Whether attributes begin with the variant of a button. -/
def BeginsWithVariant (a : List Char) : Prop :=
  ∃ (w : List Char) (v : Variant), IsBlank w ∧ w ++ v.code.toList <+: a

/-! ### What pieces may hold -/

/-- Text without tags of components is quiet. -/
theorem isText_iff {q : List Char} : IsText q ↔ q ≠ [] ∧ isQuiet q := by
  rw [isQuiet_iff]
  constructor
  · refine fun h => ⟨h.ne_nil, fun v hv hmay => ?_⟩
    rcases mayOpenTag_iff.1 hmay with rfl | rfl | ⟨c, hc, hp⟩ | ⟨c, hc, hp⟩
    · exact h.not_end hv
    · exact h.not_end_slash hv
    · exact h.not_opening c hc (hp.isInfix.trans hv.isInfix)
    · exact h.not_closing c hc (hp.isInfix.trans hv.isInfix)
  · rintro ⟨hne, hquiet⟩
    refine ⟨hne, ?_, ?_, fun h => hquiet _ h rfl, fun h => hquiet _ h rfl⟩
    · rintro c hc ⟨before, behind, rfl⟩
      refine hquiet (['<', c] ++ behind) ⟨before, by simp⟩ (mayOpenTag_iff.2 ?_)
      exact .inr (.inr (.inl ⟨c, hc, List.prefix_append _ _⟩))
    · rintro c hc ⟨before, behind, rfl⟩
      refine hquiet (['<', '/', c] ++ behind) ⟨before, by simp⟩ (mayOpenTag_iff.2 ?_)
      exact .inr (.inr (.inr ⟨c, hc, List.prefix_append _ _⟩))

instance (q : List Char) : Decidable (IsText q) := decidable_of_iff _ isText_iff.symm

theorem isAttributes_iff {a : List Char} :
    IsAttributes a ↔ '<' ∉ a ∧ '>' ∉ a ∧ ∀ c ∈ a.head?, Text.isBlank c :=
  ⟨fun h => ⟨h.not_open, h.not_close, h.blank⟩, fun ⟨h₁, h₂, h₃⟩ => ⟨h₁, h₂, h₃⟩⟩

instance (a : List Char) : Decidable (IsAttributes a) := decidable_of_iff _ isAttributes_iff.symm

theorem beginsWithVariant_iff {a : List Char} : BeginsWithVariant a ↔
    (∃ c ∈ a.head?, Text.isBlank c) ∧
      ∃ v ∈ Variant.all, v.code.toList <+: a.dropWhile Text.isBlank := by
  constructor
  · rintro ⟨w, v, hw, rest, rfl⟩
    obtain ⟨c, w', rfl⟩ := List.exists_cons_of_ne_nil hw.ne_nil
    refine ⟨⟨c, rfl, hw.isBlank c (by simp)⟩, v, by cases v <;> decide, ?_⟩
    have hcode : (v.code.toList ++ rest).dropWhile Text.isBlank = v.code.toList ++ rest := by
      cases v <;> rfl
    rw [List.append_assoc, List.dropWhile_append_of_pos hw.isBlank, hcode]
    exact List.prefix_append _ _
  · rintro ⟨⟨c, hc, hblank⟩, v, -, rest, hrest⟩
    refine ⟨a.takeWhile Text.isBlank, v, ⟨?_, fun c hc => ?_⟩, rest, ?_⟩
    · obtain ⟨a', rfl⟩ : ∃ a', a = c :: a' := List.head?_eq_some_iff.1 hc
      simp [hblank]
    · exact List.all_eq_true.1 List.all_takeWhile c hc
    · rw [List.append_assoc, hrest, List.takeWhile_append_dropWhile]

instance (a : List Char) : Decidable (BeginsWithVariant a) :=
  decidable_of_iff _ beginsWithVariant_iff.symm

theorem isBlank_iff {w : List Char} : IsBlank w ↔ w ≠ [] ∧ ∀ c ∈ w, Text.isBlank c :=
  ⟨fun h => ⟨h.ne_nil, h.isBlank⟩, fun ⟨h₁, h₂⟩ => ⟨h₁, h₂⟩⟩

instance (w : List Char) : Decidable (IsBlank w) := decidable_of_iff _ isBlank_iff.symm

/-! ### What pieces look like and become -/

namespace Piece

/-- Whether a piece is text. -/
def IsText : Piece → Prop
  | text _ => True
  | _ => False

/-- What a piece may hold. The attributes of a button must not begin with a variant, which makes it
a piece of another kind, and those of a group of radio buttons must not end with a slash, since a
radio button of the same beginning does. The attributes of a text field hold no slash, which is its
end. -/
def IsValid : Piece → Prop
  | text q => Restyle.IsText q
  | opening c a => IsAttributes a ∧ (c = .button → ¬ BeginsWithVariant a) ∧
      (c = .radioGroup → a.getLast? ≠ some '/')
  | variant w _ a => IsBlank w ∧ IsAttributes a
  | closing _ => True
  | single _ a => IsAttributes a
  | field w a => IsBlank w ∧ '<' ∉ a ∧ '/' ∉ a

instance : DecidablePred IsText
  | text _ => isTrue trivial
  | opening .. | variant .. | closing .. | single .. | field .. => isFalse id

instance : DecidablePred IsValid
  | text q => inferInstanceAs (Decidable (Restyle.IsText q))
  | opening c a =>
    inferInstanceAs (Decidable (IsAttributes a ∧ (c = .button → ¬ BeginsWithVariant a) ∧
      (c = .radioGroup → a.getLast? ≠ some '/')))
  | variant w _ a => inferInstanceAs (Decidable (IsBlank w ∧ IsAttributes a))
  | closing _ => isTrue trivial
  | single _ a => inferInstanceAs (Decidable (IsAttributes a))
  | field w a => inferInstanceAs (Decidable (IsBlank w ∧ '<' ∉ a ∧ '/' ∉ a))

/-- What a piece looks like. -/
def source : Piece → List Char
  | text q => q
  | opening c a => '<' :: (c.name.toList ++ (a ++ ['>']))
  | variant w v a => "<Button".toList ++ (w ++ (v.code.toList ++ (a ++ ['>'])))
  | closing c => '<' :: '/' :: (c.name.toList ++ ['>'])
  | single s a => '<' :: (s.name.toList ++ (a ++ ['/', '>']))
  | field w a => "<TextField".toList ++ (w ++ (a ++ ['/', '>']))

theorem source_opening (c : Container) (a : List Char) :
    (opening c a).source = '<' :: (c.name.toList ++ (a ++ ['>'])) := rfl

theorem source_variant (w : List Char) (v : Variant) (a : List Char) :
    (variant w v a).source = "<Button".toList ++ (w ++ (v.code.toList ++ (a ++ ['>']))) := rfl

theorem source_single (s : Single) (a : List Char) :
    (single s a).source = '<' :: (s.name.toList ++ (a ++ ['/', '>'])) := rfl

theorem source_field (w a : List Char) :
    (field w a).source = "<TextField".toList ++ (w ++ (a ++ ['/', '>'])) := rfl

/-- What a text field becomes, `f` being applied to its attributes. White space before the
attributes is left out. The attributes before and behind the first `multiline` are those of a text
area. -/
def fieldTarget (f : List Char → List Char) (a : List Char) : List Char :=
  match Text.cutAt? "multiline".toList a with
  | some (before, behind) => "<textarea className=\"form-control\" ".toList ++
      (f before ++ (' ' :: (f behind ++ "></textarea>".toList)))
  | none => "<input className=\"form-control\" ".toList ++ (f a ++ " />".toList)

/-- What a piece becomes, `f` being applied to text and attributes. -/
def render (f : List Char → List Char) : Piece → List Char
  | text q => f q
  | opening c a => c.opening.toList ++ (f a ++ ['>'])
  | variant _ v a => v.opening.toList ++ (f a ++ ['>'])
  | closing c => c.closing.toList
  | single s a => s.opening.toList ++ (f a ++ s.finish.toList)
  | field _ a => fieldTarget f (a.dropWhile Text.isBlank)

/-- What a piece becomes. -/
def target (p : Piece) : List Char := p.render classes

end Piece

end Restyle
