import WidgetMarkup.Markup.Token

/-!
# The written form of tokens

A grammar for the pieces that a text is cut into, said without the functions that do the cutting. It
takes in everything that can be read, also what nobody would write on purpose: attributes without a
blank between them, a bare value that is empty before the slash of a tag, an angle bracket that
starts no markup. Names and bare values go on as far as they can, so that a piece can be read in one
way only.

Nothing is said here about how pieces follow each other or nest.
-/
namespace WidgetMarkup.Markup

open Text

/-- A run of blanks, which may be empty. -/
def AllBlank (s : List Char) : Prop :=
  ∀ c ∈ s, isBlank c = true

/-- A text that does not go on with a character of a class. -/
def Stops (p : Char → Bool) (s : List Char) : Prop :=
  ∀ c ∈ s.head?, p c = false

def IsTagName (s : List Char) : Prop :=
  ∃ c t, s = c :: t ∧ isNameStart c = true ∧ ∀ d ∈ t, isNameChar d = true

def IsAttributeName (s : List Char) : Prop :=
  s ≠ [] ∧ ∀ c ∈ s, isAttributeChar c = true

def IsQuote (c : Char) : Prop :=
  c = '"' ∨ c = '\''

/-- Where a bare value ends: before a character that it cannot have, or before the slash that closes
the tag. A slash right before the end of the tag never belongs to the value. -/
def BareEnd (value rest : List Char) : Prop :=
  (value ≠ [] ∧ Stops isBareChar rest ∧
    ¬(value.getLast? = some '/' ∧ rest.head? = some '>')) ∨
  ∃ t, rest = '/' :: '>' :: t

/-- An attribute, the text that it is written as, and what follows it. An attribute without a value
has its own name as value. -/
inductive AttributeWritten : String × String → List Char → List Char → Prop
  | flag {name rest : List Char} : IsAttributeName name → Stops isAttributeChar rest →
      Stops (· == '=') (skipBlank rest) →
      AttributeWritten (String.ofList name, String.ofList name) name rest
  | quoted {name b₁ b₂ value rest : List Char} {q : Char} : IsAttributeName name →
      AllBlank b₁ → AllBlank b₂ → IsQuote q → q ∉ value →
      AttributeWritten (String.ofList name, String.ofList value)
        (name ++ (b₁ ++ '=' :: (b₂ ++ q :: (value ++ [q])))) rest
  | bare {name b₁ b₂ value rest : List Char} : IsAttributeName name →
      AllBlank b₁ → AllBlank b₂ → (∀ c ∈ value, isBareChar c = true) → BareEnd value rest →
      AttributeWritten (String.ofList name, String.ofList value)
        (name ++ (b₁ ++ '=' :: (b₂ ++ value))) rest

/-- What follows the name of a start tag, up to its end: the attributes as written, and whether a
slash closes the tag. -/
inductive TagBody : List (String × String) → Bool → List Char → Prop
  | plain {b : List Char} : AllBlank b → TagBody [] false (b ++ ['>'])
  | slash {b : List Char} : AllBlank b → TagBody [] true (b ++ ['/', '>'])
  | more {b u t : List Char} {a : String × String} {as : List (String × String)}
      {slash : Bool} : AllBlank b → AttributeWritten a u t → TagBody as slash t →
      TagBody (a :: as) slash (b ++ (u ++ t))

/-- Whether markup starts at a place: an angle bracket with what makes it one. -/
def startsMarkup : List Char → Bool
  | '<' :: c :: _ => c == '!' || c == '?' || c == '/' || isNameStart c
  | _ => false

/-- No place in a text starts markup. -/
def IsPlain (s : List Char) : Prop :=
  ∀ t, t <:+ s → startsMarkup t = false

/-- The text that a token is written as. -/
inductive Token.Written : Token → List Char → Prop
  | comment {body : List Char} : ¬['-', '-', '>'] <:+: body →
      Written .comment (['<', '!', '-', '-'] ++ (body ++ ['-', '-', '>']))
  /-- A declaration that looks like a comment is none. -/
  | declaration {mark : Char} {body : List Char} : mark = '!' ∨ mark = '?' → '>' ∉ body →
      ¬(mark = '!' ∧ ['-', '-'] <+: body) →
      Written .declaration ('<' :: mark :: (body ++ ['>']))
  | startTag {name body : List Char} {as : List (String × String)} {slash : Bool} :
      IsTagName name → Stops isNameChar body → TagBody as slash body →
      Written (.startTag ⟨String.ofList name, as, slash || isVoid (String.ofList name)⟩)
        ('<' :: (name ++ body))
  | endTag {b₁ name b₂ : List Char} : AllBlank b₁ → IsTagName name → AllBlank b₂ →
      Written (.endTag (String.ofList name)) (['<', '/'] ++ (b₁ ++ (name ++ (b₂ ++ ['>']))))
  | text {data : List Char} : data ≠ [] → IsPlain data →
      Written (.text (String.ofList data)) data

namespace Token

def isText : Token → Bool
  | text _ => true
  | _ => false

/-- A run of text goes on until markup starts; any other token ends by itself. -/
def EndsBefore (token : Token) (rest : List Char) : Prop :=
  token.isText = true → rest = [] ∨ startsMarkup rest = true

end Token

end WidgetMarkup.Markup
