/-!
# Escaping for markup

Five characters may not stand for themselves in markup: the ampersand, both angle brackets and
both quotes. Each is written as a reference, the quotes by their numbers, and every other
character as itself, so escaped text never opens a tag nor closes a quoted attribute value.
-/

namespace FormLetter.Text.Escape

/-- The written form of one character. -/
def encodeChar : Char → List Char
  | '&' => "&amp;".toList
  | '<' => "&lt;".toList
  | '>' => "&gt;".toList
  | '"' => "&#34;".toList
  | '\'' => "&#39;".toList
  | c => [c]

/-- The written form of a text, character by character. -/
def encode (text : List Char) : List Char :=
  text.flatMap encodeChar

@[simp] theorem encode_nil : encode [] = [] := rfl

@[simp] theorem encode_cons (c : Char) (rest : List Char) :
    encode (c :: rest) = encodeChar c ++ encode rest := rfl

/-- Escaping works on each part of a text by itself. -/
theorem encode_append (left right : List Char) :
    encode (left ++ right) = encode left ++ encode right := by
  simp [encode]

end FormLetter.Text.Escape
