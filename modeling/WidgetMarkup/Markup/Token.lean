import WidgetMarkup.Markup.Lexeme

/-!
# Tokens

A text is cut into comments, declarations, start tags, end tags and runs of text. What starts at a
place is seen from its first characters: an angle bracket that starts no markup is text, and a run
of text goes on to the next place where markup starts.

A scan cuts a whole text, as far as it can.
-/
namespace WidgetMarkup.Markup

/-- What starts at a place. -/
inductive Opening where
  | comment
  | declaration
  | endTag
  | startTag
  | text
deriving DecidableEq, Repr

/-- An angle bracket with a tag name. -/
def opensTag : List Char → Bool
  | '<' :: c :: _ => isNameStart c
  | _ => false

def Opening.of (s : List Char) : Opening :=
  if ['<', '!', '-', '-'].isPrefixOf s then .comment
  else if ['<', '!'].isPrefixOf s || ['<', '?'].isPrefixOf s then .declaration
  else if ['<', '/'].isPrefixOf s then .endTag
  else if opensTag s then .startTag
  else .text

/-- The run of text at the start, and what follows it. -/
def textRun : List Char → List Char × List Char
  | [] => ([], [])
  | c :: s =>
    if Opening.of (c :: s) = .text then (c :: (textRun s).1, (textRun s).2)
    else ([], c :: s)

inductive Token where
  | comment
  | declaration
  | startTag (tag : WrittenTag)
  | endTag (name : String)
  | text (data : String)
deriving DecidableEq, Repr

/-- The token at the start of a text. -/
def Token.read (s : List Char) : Except ReadError (Token × List Char) :=
  match Opening.of s with
  | .comment => do
    let rest ← skipComment s
    pure (.comment, rest)
  | .declaration => do
    let rest ← skipDeclaration s
    pure (.declaration, rest)
  | .endTag => do
    let (name, rest) ← readEndTag s
    pure (.endTag name, rest)
  | .startTag => do
    let (tag, rest) ← readStartTag s
    pure (.startTag tag, rest)
  | .text =>
    let (data, rest) := textRun s
    .ok (.text (String.ofList data), rest)

theorem length_afterFirst?_le {pattern s rest : List Char}
    (h : afterFirst? pattern s = some rest) : rest.length + pattern.length ≤ s.length := by
  induction s with
  | nil =>
    unfold afterFirst? at h
    split at h
    · rename_i hp
      simp only [List.isEmpty_iff] at hp
      cases h
      simp [hp]
    · cases h
  | cons c s ih =>
    unfold afterFirst? at h
    split at h
    · rename_i hp
      have := (List.isPrefixOf_iff_prefix.1 hp).length_le
      injection h with h
      subst h
      rw [List.length_drop]
      omega
    · have := ih h
      rw [List.length_cons]
      omega

theorem length_tagName?_lt {s name rest : List Char} (h : tagName? s = some (name, rest)) :
    rest.length < s.length := by
  unfold tagName? at h
  split at h
  · cases h
  · rename_i c t
    split at h
    · injection h with h
      injection h with _ h
      subst h
      have := length_dropWhile_le isNameChar t
      rw [List.length_cons]
      omega
    · cases h

theorem length_readAttributes_le {start s rest : List Char} {name : String}
    {attributes : List (String × String)} {slash : Bool}
    (h : readAttributes start name s = .ok (attributes, slash, rest)) :
    rest.length ≤ s.length := by
  fun_induction readAttributes start name s generalizing attributes slash rest with
  | case1 => cases h
  | case2 s t hs =>
    have := length_dropWhile_le Text.isBlank s
    rw [← skipBlank, hs, List.length_cons] at this
    cases h
    omega
  | case3 s c t hs hc hslash =>
    have := length_dropWhile_le Text.isBlank s
    rw [← skipBlank, hs, List.length_cons] at this
    cases h
    rw [List.length_tail]
    omega
  | case4 => cases h
  | case5 s c t hs hc hslash a rest' ha ih =>
    have hle := length_dropWhile_le Text.isBlank s
    have hlt := length_readAttribute_lt ha
    rw [← skipBlank, hs] at hle
    cases hr : readAttributes start name rest' with
    | error e => rw [hr] at h; cases h
    | ok p =>
      rw [hr] at h
      have := ih hr
      cases h
      omega

theorem length_readStartTag_lt {s rest : List Char} {tag : WrittenTag}
    (h : readStartTag s = .ok (tag, rest)) : rest.length < s.length := by
  unfold readStartTag at h
  split at h
  · cases h
  · rename_i name rest' hname
    have hlt := length_tagName?_lt hname
    rw [List.length_drop] at hlt
    cases hr : readAttributes s (String.ofList name) rest' with
    | error e => rw [hr] at h; cases h
    | ok p =>
      rw [hr] at h
      have := length_readAttributes_le hr
      cases h
      omega

theorem length_readEndTag_lt {s rest : List Char} {name : String}
    (h : readEndTag s = .ok (name, rest)) : rest.length < s.length := by
  unfold readEndTag at h
  split at h
  · split at h
    · cases h
    · rename_i n r hname
      have hlt := length_tagName?_lt hname
      have h1 := length_dropWhile_le Text.isBlank (s.drop 2)
      have h2 := length_dropWhile_le Text.isBlank r
      rw [← skipBlank, List.length_drop] at h1
      rw [← skipBlank] at h2
      split at h
      · cases h
      · rename_i c t heq
        rw [heq, List.length_cons] at h2
        split at h
        · cases h
          omega
        · cases h
  · cases h

theorem length_textRun_le (s : List Char) : (textRun s).2.length ≤ s.length := by
  induction s with
  | nil => exact Nat.le_refl 0
  | cons c s ih =>
    unfold textRun
    split
    · dsimp only
      rw [List.length_cons]
      omega
    · exact Nat.le_refl _

theorem length_textRun_lt {c : Char} {s : List Char} (h : Opening.of (c :: s) = .text) :
    (textRun (c :: s)).2.length < (c :: s).length := by
  have := length_textRun_le s
  simp only [textRun, h, if_true, List.length_cons]
  omega

/-- Every token takes at least one character. -/
theorem Token.length_read_lt {s rest : List Char} {token : Token} (hs : s ≠ [])
    (h : Token.read s = .ok (token, rest)) : rest.length < s.length := by
  have hpos : 0 < s.length := List.length_pos_iff.2 hs
  unfold Token.read at h
  split at h
  · cases hr : skipComment s with
    | error e => rw [hr] at h; cases h
    | ok r =>
      rw [hr] at h
      cases h
      unfold skipComment at hr
      split at hr
      · cases hr
      · rename_i hf
        have := length_afterFirst?_le hf
        cases hr
        rw [List.length_drop] at this
        simp only [List.length_cons, List.length_nil] at this
        omega
  · cases hr : skipDeclaration s with
    | error e => rw [hr] at h; cases h
    | ok r =>
      rw [hr] at h
      cases h
      unfold skipDeclaration at hr
      split at hr
      · cases hr
      · rename_i hf
        have := length_afterFirst?_le hf
        cases hr
        simp only [List.length_cons, List.length_nil] at this
        omega
  · cases hr : readEndTag s with
    | error e => rw [hr] at h; cases h
    | ok p =>
      rw [hr] at h
      have := length_readEndTag_lt hr
      cases h
      exact this
  · cases hr : readStartTag s with
    | error e => rw [hr] at h; cases h
    | ok p =>
      rw [hr] at h
      have := length_readStartTag_lt hr
      cases h
      exact this
  · rename_i ho
    cases s with
    | nil => exact absurd rfl hs
    | cons c t =>
      cases h
      exact length_textRun_lt ho

/-- A token with the text left where it starts and the text left after it. -/
structure Span where
  token : Token
  start : List Char
  rest : List Char
deriving DecidableEq, Repr

/-- The tokens of a text in order, and why the scan stopped if it did not reach the end. -/
structure Scan where
  spans : List Span
  stop : Option ReadError
deriving DecidableEq, Repr

def scan (s : List Char) : Scan :=
  if _hs : s = [] then ⟨[], none⟩
  else
    match _h : Token.read s with
    | .error e => ⟨[], some e⟩
    | .ok (token, rest) =>
      let after := scan rest
      ⟨⟨token, s, rest⟩ :: after.spans, after.stop⟩
termination_by s.length
decreasing_by exact Token.length_read_lt _hs _h

end WidgetMarkup.Markup
