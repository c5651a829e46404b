import Restyle.Proofs.Rule.Convergence

/-!
# Markup that the table converts

The table converts the tags of the components that have content, the elements without content, text
fields, attributes that become classes, and imports from the component library and its styling
packages. This file describes the stretches of text that are such markup, without reference to the
rules, and shows that the table leaves exactly those texts as they are in which there is none.

## Main definitions

* `Restyle.Convertible` — the stretches of text that the table converts.

## Main results

* `Restyle.applyChars_eq_self_iff_not_convertible` — what the table leaves as it is.
-/

namespace Restyle

/-- The components that have content. -/
def containerNames : List String :=
  ["Button", "Select", "MenuItem", "FormControl", "InputLabel", "FormControlLabel", "RadioGroup",
    "Box"]

/-- The components without content, other than text fields. -/
def emptyNames : List String := ["Checkbox", "Radio", "Chip"]

/-- The attributes that become classes. -/
def attributeTexts : List String :=
  ["color=\"primary\"", "color=\"secondary\"", "color=\"error\"", "color=\"success\"",
    "color=\"warning\"", "size=\"small\"", "size=\"large\"", "fullWidth"]

/-- A quotation mark. -/
def IsQuote (c : Char) : Prop := c = '\'' ∨ c = '"'

/-- The component library, or one of the styling packages. -/
def IsPackage (p : List Char) : Prop :=
  p = "@mui/material".toList ∨
    ∃ name : List Char, name ≠ [] ∧ (∀ c ∈ name, ¬ IsQuote c) ∧ p = "@emotion/".toList ++ name

/-- The stretches of text that the table converts. -/
inductive Convertible : List Char → Prop
  /-- the opening tag of a component with content -/
  | opening {name : String} {attributes : List Char} (hname : name ∈ containerNames)
      (h : '>' ∉ attributes) : Convertible ('<' :: name.toList ++ attributes ++ ['>'])
  /-- its closing tag -/
  | closing {name : String} (hname : name ∈ containerNames) :
      Convertible ('<' :: '/' :: name.toList ++ ['>'])
  /-- an element without content -/
  | empty {name : String} {attributes : List Char} (hname : name ∈ emptyNames)
      (h : '>' ∉ attributes) : Convertible ('<' :: name.toList ++ attributes ++ ['/', '>'])
  /-- a text field -/
  | field {w attributes : List Char} (hw : IsBlank w) (h : '/' ∉ attributes) :
      Convertible ("<TextField".toList ++ w ++ attributes ++ ['/', '>'])
  /-- an attribute that becomes a class -/
  | styleAttribute {a : String} (ha : a ∈ attributeTexts) : Convertible a.toList
  /-- an import on a line, up to the quotation mark behind the package -/
  | lineImport {w line w' p : List Char} {q q' : Char} (hw : IsBlank w) (hline : '\n' ∉ line)
      (hw' : IsBlank w') (hq : IsQuote q) (hp : IsPackage p) (hq' : IsQuote q') :
      Convertible ("import".toList ++ w ++ line ++ "from".toList ++ w' ++ q :: p ++ [q'])
  /-- an import of some names from the component library, one of which is rewritten -/
  | namedImport {w a b w₁ w₂ : List Char} {name : String} {q q' : Char} (hw : IsBlank w)
      (ha : '\x7d' ∉ a) (hname : name ∈ ["Button", "TextField", "Select"]) (hb : '\x7d' ∉ b)
      (hw₁ : IsBlank w₁) (hw₂ : IsBlank w₂) (hq : IsQuote q) (hq' : IsQuote q') :
      Convertible ("import".toList ++ w ++ '\x7b' :: a ++ name.toList ++ b ++ '\x7d' :: w₁ ++
        "from".toList ++ w₂ ++ q :: "@mui/material".toList ++ [q'])

/-! ### Imports -/

namespace Form

open Shape

variable {rest after : List Char} {marks : List Mark}

theorem contains_quotes (c : Char) : quotes.contains c ↔ IsQuote c := by
  simp [quotes, CharSet.contains_unionAll, IsQuote]

/-- What stands at the end of an import, `package` being what its package looks like. -/
theorem leads_fromPackage {package : List Shape} :
    (ofParts (fromPackage package)).Leads (fun _ => none) rest marks after ↔
      ∃ w q behind, IsBlank w ∧ IsQuote q ∧ rest = "from".toList ++ (w ++ q :: behind) ∧
        (ofParts (package ++ [one quotes, repeated (text ";") 0 (some 1) .more])).Leads
          (fun _ => none) behind marks after := by
  have hparts : ofParts (fromPackage package) = seq (text "from") (seq blanks (seq (one quotes)
      (ofParts (package ++ [one quotes, repeated (text ";") 0 (some 1) .more])))) := by
    cases package <;> rfl
  rw [hparts]
  constructor
  · rintro ⟨_, _, _, ⟨rfl, rfl⟩, ⟨_, _, _, hblanks, ⟨_, _, _, ⟨q, hq, rfl, rfl⟩, hlead, rfl⟩, rfl⟩,
      rfl⟩
    obtain ⟨w, hw, rfl, rfl⟩ := (leads_blanks ..).1 hblanks
    exact ⟨w, q, _, hw, (contains_quotes q).1 hq, rfl, hlead⟩
  · rintro ⟨w, q, behind, hw, hq, rfl, hlead⟩
    exact ⟨_, _, _, ⟨rfl, rfl⟩, ⟨_, _, _, (leads_blanks ..).2 ⟨w, hw, rfl, rfl⟩,
      ⟨_, _, _, ⟨q, (contains_quotes q).2 hq, rfl, rfl⟩, hlead, rfl⟩, rfl⟩, rfl⟩

/-- The end of an import behind its package: a quotation mark and perhaps a semicolon. -/
theorem exists_of_leads_importEnd
    (h : (ofParts [one quotes, repeated (text ";") 0 (some 1) .more]).Leads (fun _ => none)
      rest marks after) : ∃ q u, IsQuote q ∧ rest = q :: u := by
  obtain ⟨_, _, _, ⟨q, hq, rfl, rfl⟩, -, -⟩ := h
  exact ⟨q, _, (contains_quotes q).1 hq, rfl⟩

theorem leads_importEnd {q : Char} (hq : IsQuote q) (after : List Char) :
    (ofParts [one quotes, repeated (text ";") 0 (some 1) .more]).Leads (fun _ => none)
      (q :: after) [] after :=
  ⟨[], after, [], ⟨q, (contains_quotes q).2 hq, rfl, rfl⟩, .inr ⟨rfl, rfl⟩, rfl⟩

/-- What a form for imports on a line looks for. -/
theorem leads_lineImport {package : List Shape} :
    (ofParts ([text "import", blanks, many (otherThan '\n')] ++ fromPackage package)).Leads
        (fun _ => none) rest marks after ↔
      ∃ w line behind, IsBlank w ∧ '\n' ∉ line ∧ rest = "import".toList ++ (w ++ (line ++ behind)) ∧
        (ofParts (fromPackage package)).Leads (fun _ => none) behind marks after := by
  have hparts : ofParts ([text "import", blanks, many (otherThan '\n')] ++ fromPackage package) =
      seq (text "import") (seq blanks (seq (many (otherThan '\n'))
        (ofParts (fromPackage package)))) := by
    cases package <;> rfl
  rw [hparts]
  constructor
  · rintro ⟨_, _, _, ⟨rfl, rfl⟩, ⟨_, _, _, hblanks, ⟨_, _, _, hmany, hlead, rfl⟩, rfl⟩, rfl⟩
    obtain ⟨w, hw, rfl, rfl⟩ := (leads_blanks ..).1 hblanks
    obtain ⟨line, hline, rfl, rfl⟩ := (leads_many ..).1 hmany
    exact ⟨w, line, _, hw, hline, rfl, hlead⟩
  · rintro ⟨w, line, behind, hw, hline, rfl, hlead⟩
    exact ⟨_, _, _, ⟨rfl, rfl⟩, ⟨_, _, _, (leads_blanks ..).2 ⟨w, hw, rfl, rfl⟩,
      ⟨_, _, _, (leads_many ..).2 ⟨line, hline, rfl, rfl⟩, hlead, rfl⟩, rfl⟩, rfl⟩

/-- What a form for imports of a name looks for. -/
theorem leads_namedImport {name : String} :
    (namedImport name).shape.Leads (fun _ => none) rest marks after ↔
      ∃ w a b w₁ behind, IsBlank w ∧ '\x7d' ∉ a ∧ '\x7d' ∉ b ∧ IsBlank w₁ ∧
        rest = "import".toList ++ (w ++ ('\x7b' :: (a ++ (name.toList ++ (b ++ ('\x7d' ::
          (w₁ ++ behind))))))) ∧
        (ofParts (fromPackage [text "@mui/material"])).Leads
          (fun _ => none) behind marks after := by
  constructor
  · rintro ⟨_, _, _, ⟨rfl, rfl⟩, ⟨_, _, _, hblanks, ⟨_, _, _, ⟨rfl, rfl⟩, ⟨_, _, _, hmany,
      ⟨_, _, _, ⟨rfl, rfl⟩, ⟨_, _, _, hmany', ⟨_, _, _, ⟨rfl, rfl⟩, ⟨_, _, _, hblanks', hlead, rfl⟩,
        rfl⟩, rfl⟩, rfl⟩, rfl⟩, rfl⟩, rfl⟩, rfl⟩
    obtain ⟨w, hw, rfl, rfl⟩ := (leads_blanks ..).1 hblanks
    obtain ⟨a, ha, rfl, rfl⟩ := (leads_many ..).1 hmany
    obtain ⟨b, hb, rfl, rfl⟩ := (leads_many ..).1 hmany'
    obtain ⟨w₁, hw₁, rfl, rfl⟩ := (leads_blanks ..).1 hblanks'
    exact ⟨w, a, b, w₁, _, hw, ha, hb, hw₁, rfl, hlead⟩
  · rintro ⟨w, a, b, w₁, behind, hw, ha, hb, hw₁, rfl, hlead⟩
    exact ⟨_, _, _, ⟨rfl, rfl⟩, ⟨_, _, _, (leads_blanks ..).2 ⟨w, hw, rfl, rfl⟩,
      ⟨_, _, _, ⟨rfl, rfl⟩, ⟨_, _, _, (leads_many ..).2 ⟨a, ha, rfl, rfl⟩, ⟨_, _, _, ⟨rfl, rfl⟩,
        ⟨_, _, _, (leads_many ..).2 ⟨b, hb, rfl, rfl⟩, ⟨_, _, _, ⟨rfl, rfl⟩,
          ⟨_, _, _, (leads_blanks ..).2 ⟨w₁, hw₁, rfl, rfl⟩, hlead, rfl⟩,
            rfl⟩, rfl⟩, rfl⟩, rfl⟩, rfl⟩, rfl⟩, rfl⟩

/-- What follows the quotation mark before the package of an import. -/
abbrev behindQuote (package : List Shape) : Shape :=
  ofParts (package ++ [one quotes, repeated (text ";") 0 (some 1) .more])

theorem exists_of_leads_lineImport {x : Form} (hx : x = packageImport ∨ x = styleImport)
    (h : x.shape.Leads (fun _ => none) rest marks after) :
    ∃ u behind, Convertible u ∧ rest = u ++ behind := by
  have hline (package : List Shape)
      (hpackage : ∀ {behind}, (behindQuote package).Leads (fun _ => none) behind marks after →
        ∃ p q u, IsPackage p ∧ IsQuote q ∧ behind = p ++ q :: u)
      (h : (ofParts ([text "import", blanks, many (otherThan '\n')] ++ fromPackage package)).Leads
        (fun _ => none) rest marks after) : ∃ u behind, Convertible u ∧ rest = u ++ behind := by
    obtain ⟨w, line, behind, hw, hline, rfl, hfrom⟩ := leads_lineImport.1 h
    obtain ⟨w', q, behind, hw', hq, rfl, hlead⟩ := leads_fromPackage.1 hfrom
    obtain ⟨p, q', u, hp, hq', rfl⟩ := hpackage hlead
    exact ⟨_, u, .lineImport hw hline hw' hq hp hq', by simp⟩
  rcases hx with rfl | rfl
  · refine hline [text "@mui/material"] ?_ h
    rintro behind ⟨_, _, _, ⟨rfl, rfl⟩, hend, -⟩
    obtain ⟨q, u, hq, rfl⟩ := exists_of_leads_importEnd hend
    exact ⟨_, q, u, .inl rfl, hq, rfl⟩
  · refine hline [text "@emotion/", repeated (one quotes.compl) 1 none .more] ?_ h
    rintro behind ⟨_, _, _, ⟨rfl, rfl⟩, ⟨_, _, _, ⟨name, hname, hlength, rfl, rfl⟩, hend, -⟩, -⟩
    obtain ⟨q, u, hq, rfl⟩ := exists_of_leads_importEnd hend
    refine ⟨_, q, u, .inr ⟨name, List.ne_nil_of_length_pos hlength, fun c hc hquote => ?_, rfl⟩, hq,
      by simp⟩
    have := hname c hc
    rw [CharSet.contains_compl, (contains_quotes c).2 hquote] at this
    exact Bool.noConfusion this

theorem exists_of_leads_namedImport {name : String}
    (hname : name ∈ ["Button", "TextField", "Select"])
    (h : (namedImport name).shape.Leads (fun _ => none) rest marks after) :
    ∃ u behind, Convertible u ∧ rest = u ++ behind := by
  obtain ⟨w, a, b, w₁, behind, hw, ha, hb, hw₁, rfl, hfrom⟩ := leads_namedImport.1 h
  obtain ⟨w₂, q, behind, hw₂, hq, rfl, ⟨_, _, _, ⟨rfl, rfl⟩, hend, -⟩⟩ := leads_fromPackage.1 hfrom
  obtain ⟨q', u, hq', rfl⟩ := exists_of_leads_importEnd hend
  exact ⟨_, u, .namedImport hw ha hname hb hw₁ hw₂ hq hq', by simp⟩

/-- Whether a form turns the opening tags of a component. -/
def isOpening (name : String) : Form → Bool
  | element tag ending _ _ => tag.toList == '<' :: name.toList && ending.toList == ['>']
  | _ => false

/-- Whether a form turns the closing tags of a component. -/
def isClosing (name : String) : Form → Bool
  | words old _ => old.toList == '<' :: '/' :: name.toList ++ ['>']
  | _ => false

/-- Whether a form turns an element without content. -/
def isEmptyElement (name : String) : Form → Bool
  | element tag ending _ _ => tag.toList == '<' :: name.toList && ending.toList == ['/', '>']
  | _ => false

/-- Whether a form turns an attribute. -/
def isAttribute (a : String) : Form → Bool
  | words old _ => old.toList == a.toList
  | _ => false

/-- Whether a form turns some of the markup that is described, leaving imports aside. -/
def isForMarkup : Form → Bool
  | namedImport _ | packageImport | styleImport => false
  | variant _ _ | longField | field => true
  | x => containerNames.any (fun name => x.isOpening name || x.isClosing name) ||
      emptyNames.any x.isEmptyElement || attributeTexts.any x.isAttribute

theorem isForMarkup_of_mem {x : Form} (hx : x ∈ tagForms ++ attributeForms) : x.isForMarkup := by
  have : ∀ x ∈ tagForms ++ attributeForms, x.isForMarkup := by decide
  exact this x hx

theorem exists_isOpening {name : String} (h : name ∈ containerNames) :
    ∃ x ∈ tagForms, x.isOpening name := by
  have : ∀ name ∈ containerNames, tagForms.any (isOpening name) := by decide
  simpa using this name h

theorem exists_isClosing {name : String} (h : name ∈ containerNames) :
    ∃ x ∈ tagForms, x.isClosing name := by
  have : ∀ name ∈ containerNames, tagForms.any (isClosing name) := by decide
  simpa using this name h

theorem exists_isEmptyElement {name : String} (h : name ∈ emptyNames) :
    ∃ x ∈ tagForms, x.isEmptyElement name := by
  have : ∀ name ∈ emptyNames, tagForms.any (isEmptyElement name) := by decide
  simpa using this name h

theorem exists_isAttribute {a : String} (h : a ∈ attributeTexts) :
    ∃ x ∈ attributeForms, x.isAttribute a := by
  have : ∀ a ∈ attributeTexts, attributeForms.any (isAttribute a) := by decide
  simpa using this a h

/-- **What a form of the table turns begins with markup that the table converts.** -/
theorem exists_convertible_of_turn? {x : Form} (hx : x ∈ bootstrapForms)
    {turned : List Char × List Char} (h : x.turn? rest = some turned) :
    ∃ u behind, Convertible u ∧ rest = u ++ behind := by
  obtain ⟨put, after⟩ := turned
  have hsound := isSound_of_mem hx
  rcases mem_bootstrapForms_iff.1 hx with himport | hmarkup
  · obtain ⟨-, m, -, -, -, -, -, hlead⟩ := exists_leads_of_turn? hsound h
    have hlist : x ∈ [namedImport "Button", namedImport "TextField", namedImport "Select",
      packageImport, styleImport] := himport
    simp only [List.mem_cons, List.not_mem_nil, or_false] at hlist
    rcases hlist with rfl | rfl | rfl | hline
    · exact exists_of_leads_namedImport (by simp) hlead
    · exact exists_of_leads_namedImport (by simp) hlead
    · exact exists_of_leads_namedImport (by simp) hlead
    · exact exists_of_leads_lineImport hline hlead
  · have hfor := isForMarkup_of_mem hmarkup
    cases x with
    | namedImport | packageImport | styleImport => exact absurd hfor (by simp [isForMarkup])
    | variant value new =>
      obtain ⟨w, cap, -, -, rfl, -⟩ := exists_of_turn?_variant hsound h
      have hmem : '>' ∈ w ++ (("variant=\"" ++ value ++ "\"").toList ++
          (cap ++ (">".toList ++ after))) := by simp
      obtain ⟨attributes, behind, hsplit, hfirst⟩ := List.eq_append_cons_of_mem hmem
      exact ⟨_, behind, .opening (show "Button" ∈ containerNames by decide) hfirst,
        by rw [hsplit]; simp⟩
    | element tag ending new finish =>
      obtain ⟨cap, hcap, rfl, -⟩ := exists_of_turn?_element hsound h
      have hnames : (∃ name ∈ containerNames, tag.toList = '<' :: name.toList ∧
          ending.toList = ['>']) ∨ ∃ name ∈ emptyNames, tag.toList = '<' :: name.toList ∧
            ending.toList = ['/', '>'] := by
        simpa [isForMarkup, isOpening, isClosing, isEmptyElement, isAttribute] using hfor
      rcases hnames with ⟨name, hname, htag, hending⟩ | ⟨name, hname, htag, hending⟩
      · exact ⟨_, after, .opening hname hcap, by simp [htag, hending]⟩
      · exact ⟨_, after, .empty hname hcap, by simp [htag, hending]⟩
    | longField =>
      obtain ⟨w, cap, cap', hw, hcap, hcap', -, -, rfl, -⟩ := exists_of_turn?_longField h
      have hslash : '/' ∉ cap ++ ("multiline".toList ++ cap') := by simp [hcap, hcap']
      exact ⟨_, after, .field hw hslash, by simp⟩
    | field =>
      obtain ⟨w, cap, hw, hcap, -, rfl, -⟩ := exists_of_turn?_field h
      exact ⟨_, after, .field hw hcap, by simp⟩
    | words old new =>
      obtain ⟨rfl, -⟩ := (turn?_words_iff hsound).1 h
      have hnames : (∃ name ∈ containerNames, old.toList = '<' :: '/' :: (name.toList ++ ['>'])) ∨
          ∃ a ∈ attributeTexts, old.toList = a.toList := by
        simpa [isForMarkup, isOpening, isClosing, isEmptyElement, isAttribute] using hfor
      rcases hnames with ⟨name, hname, hold⟩ | ⟨a, ha, hold⟩
      · exact ⟨_, after, .closing hname, by rw [hold]; rfl⟩
      · exact ⟨_, after, .styleAttribute ha, by rw [hold]⟩

/-! ### Markup is turned -/

/-- A form for elements turns every tag with its beginning and its end. -/
theorem isSome_turn?_element {tag ending new finish : String}
    (hx : (element tag ending new finish).isSound) {cap : List Char} (hcap : '>' ∉ cap)
    (behind : List Char) :
    ((element tag ending new finish).turn?
      (tag.toList ++ (cap ++ (ending.toList ++ behind)))).isSome :=
  isSome_turn?_of_leads hx _ behind (leads_element.2 ⟨cap, hcap, rfl, rfl⟩)

/-- A form for one text turns this text. -/
theorem isSome_turn?_words {old new : String} (hx : (words old new).isSound) (behind : List Char) :
    ((words old new).turn? (old.toList ++ behind)).isSome :=
  Option.isSome_iff_exists.2 ⟨_, (turn?_words_iff hx).2 ⟨rfl, rfl⟩⟩

/-- An import of a name from `@mui/material` is turned by the form for this name. -/
theorem isSome_turn?_materialImport {w a b w₁ w₂ : List Char} {name : String} {q q' : Char}
    (hx : (namedImport name).isSound) (hw : IsBlank w) (ha : '\x7d' ∉ a) (hb : '\x7d' ∉ b)
    (hw₁ : IsBlank w₁) (hw₂ : IsBlank w₂) (hq : IsQuote q) (hq' : IsQuote q') (behind : List Char) :
    ((namedImport name).turn?
      ("import".toList ++ w ++ '\x7b' :: a ++ name.toList ++ b ++ '\x7d' :: w₁ ++
      "from".toList ++ w₂ ++ q :: "@mui/material".toList ++ [q'] ++ behind)).isSome := by
  have hpackage : (behindQuote [text "@mui/material"]).Leads (fun _ => none)
      ("@mui/material".toList ++ q' :: behind) [] behind :=
    ⟨_, _, _, ⟨rfl, rfl⟩, leads_importEnd hq' behind, rfl⟩
  refine isSome_turn?_of_leads hx [] behind
    (leads_namedImport.2 ⟨w, a, b, w₁, _, hw, ha, hb, hw₁, ?_,
    leads_fromPackage.2 ⟨w₂, q, _, hw₂, hq, rfl, hpackage⟩⟩)
  simp

/-- An import on a line is turned by the form for its package. -/
theorem exists_isSome_turn?_lineImport {w line w' p : List Char} {q q' : Char} (hw : IsBlank w)
    (hline : '\n' ∉ line) (hw' : IsBlank w') (hq : IsQuote q) (hp : IsPackage p) (hq' : IsQuote q')
    (behind : List Char) :
    ∃ x ∈ importForms,
      (x.turn? ("import".toList ++ w ++ line ++ "from".toList ++ w' ++ q :: p ++ [q'] ++
      behind)).isSome := by
  have hlead (package : List Shape)
      (h : (behindQuote package).Leads (fun _ => none) (p ++ q' :: behind) [] behind) :
      (ofParts ([text "import", blanks, many (otherThan '\n')] ++ fromPackage package)).Leads
        (fun _ => none) ("import".toList ++ w ++ line ++ "from".toList ++ w' ++ q :: p ++ [q'] ++
          behind) [] behind :=
    leads_lineImport.2 ⟨w, line, _, hw, hline, by simp,
      leads_fromPackage.2 ⟨w', q, _, hw', hq, rfl, h⟩⟩
  rcases hp with rfl | ⟨name, hne, hname, rfl⟩
  · have hpackage : (behindQuote [text "@mui/material"]).Leads (fun _ => none)
        ("@mui/material".toList ++ q' :: behind) [] behind :=
      ⟨_, _, _, ⟨rfl, rfl⟩, leads_importEnd hq' behind, rfl⟩
    exact ⟨packageImport, by decide,
      isSome_turn?_of_leads (isSound_of_mem (by decide)) _ _ (hlead _ hpackage)⟩
  · have hnoQuote : ∀ c ∈ name, quotes.compl.contains c := by
      intro c hc
      rw [CharSet.contains_compl, Bool.not_eq_true', Bool.eq_false_iff]
      exact fun hquote => hname c hc ((contains_quotes c).1 hquote)
    have hpackage : (behindQuote [text "@emotion/", repeated (one quotes.compl) 1 none .more]).Leads
        (fun _ => none) ("@emotion/".toList ++ name ++ q' :: behind) [] behind :=
      ⟨_, _, _, ⟨by rw [List.append_assoc], rfl⟩, ⟨_, _, _, ⟨name, hnoQuote,
        List.length_pos_of_ne_nil hne, rfl, rfl⟩, leads_importEnd hq' behind, rfl⟩, rfl⟩
    exact ⟨styleImport, by decide,
      isSome_turn?_of_leads (isSound_of_mem (by decide)) _ _ (hlead _ hpackage)⟩

/-- **Markup that the table converts is turned by a form of the table.** -/
theorem exists_turn?_of_convertible {u : List Char} (hu : Convertible u) (behind : List Char) :
    ∃ x ∈ bootstrapForms, (x.turn? (u ++ behind)).isSome := by
  have htag {x : Form} (hx : x ∈ tagForms) : x ∈ bootstrapForms := by simp [bootstrapForms, hx]
  have hattribute {x : Form} (hx : x ∈ attributeForms) : x ∈ bootstrapForms := by
    simp [bootstrapForms, hx]
  have himport {x : Form} (hx : x ∈ importForms) : x ∈ bootstrapForms := by
    simp [bootstrapForms, hx]
  cases hu with
  | @opening name cap hname hcap =>
    obtain ⟨x, hx, hopens⟩ := exists_isOpening hname
    refine ⟨x, htag hx, ?_⟩
    cases x with
    | element tag ending new finish =>
      obtain ⟨htag', hending⟩ : tag.toList = '<' :: name.toList ∧ ending.toList = ['>'] := by
        simpa [isOpening] using hopens
      simpa [htag', hending] using isSome_turn?_element (isSound_of_mem (htag hx)) hcap behind
    | _ => simp [isOpening] at hopens
  | @closing name hname =>
    obtain ⟨x, hx, hcloses⟩ := exists_isClosing hname
    refine ⟨x, htag hx, ?_⟩
    cases x with
    | words old new =>
      have hold : old.toList = '<' :: '/' :: (name.toList ++ ['>']) := by
        simpa [isClosing] using hcloses
      simpa [hold] using isSome_turn?_words (isSound_of_mem (htag hx)) behind
    | _ => simp [isClosing] at hcloses
  | @empty name cap hname hcap =>
    obtain ⟨x, hx, hempty⟩ := exists_isEmptyElement hname
    refine ⟨x, htag hx, ?_⟩
    cases x with
    | element tag ending new finish =>
      obtain ⟨htag', hending⟩ : tag.toList = '<' :: name.toList ∧ ending.toList = ['/', '>'] := by
        simpa [isEmptyElement] using hempty
      simpa [htag', hending] using isSome_turn?_element (isSound_of_mem (htag hx)) hcap behind
    | _ => simp [isEmptyElement] at hempty
  | @field w cap hw hcap =>
    have hturn := isSome_turn?_field hw hcap behind
    exact ⟨field, htag (by decide), by simpa using hturn⟩
  | @styleAttribute a ha =>
    obtain ⟨x, hx, hturns⟩ := exists_isAttribute ha
    refine ⟨x, hattribute hx, ?_⟩
    cases x with
    | words old new =>
      have hold : old.toList = a.toList := by simpa [isAttribute] using hturns
      rw [← hold]
      exact isSome_turn?_words (isSound_of_mem (hattribute hx)) behind
    | _ => simp [isAttribute] at hturns
  | lineImport hw hline hw' hq hp hq' =>
    obtain ⟨x, hx, hturn⟩ := exists_isSome_turn?_lineImport hw hline hw' hq hp hq' behind
    exact ⟨x, himport hx, hturn⟩
  | @namedImport w a b w₁ w₂ name q q' hw ha hname hb hw₁ hw₂ hq hq' =>
    have hforms : ∀ name ∈ ["Button", "TextField", "Select"], namedImport name ∈ importForms := by
      decide
    have hmem := himport (hforms name hname)
    exact ⟨namedImport name, hmem,
      isSome_turn?_materialImport (isSound_of_mem hmem) hw ha hb hw₁ hw₂ hq hq' behind⟩

end Form

/-! ### What the table leaves as it is -/

/-- **The table leaves exactly those texts as they are in which there is no markup to convert.** -/
theorem applyChars_eq_self_iff_not_convertible {text : List Char} :
    bootstrapRules.applyChars text = text ↔ ∀ u, Convertible u → ¬ u <:+: text := by
  rw [applyChars_eq_self_iff]
  constructor
  · rintro hhits u hu ⟨before, behind, rfl⟩
    obtain ⟨x, hx, hturn⟩ := Form.exists_turn?_of_convertible hu behind
    obtain ⟨r, hr, hform⟩ := exists_rule_of_mem hx
    have hnone := (Form.hits_eq_zero_iff (Form.isSound_of_mem hx)).1
      ((hform.hits_eq _).symm.trans (hhits r hr)) (u ++ behind) ⟨before, by simp⟩
    rw [hnone] at hturn
    exact Bool.noConfusion hturn
  · intro hnot r hr
    obtain ⟨x, hx, hform⟩ := exists_form_of_mem hr
    rw [hform.hits_eq, Form.hits_eq_zero_iff (Form.isSound_of_mem hx)]
    rintro rest ⟨before, rfl⟩
    rw [Option.eq_none_iff_forall_ne_some]
    intro turned hturn
    obtain ⟨u, behind, hu, rfl⟩ := Form.exists_convertible_of_turn? hx hturn
    exact hnot u hu ⟨before, behind, by simp⟩

end Restyle
