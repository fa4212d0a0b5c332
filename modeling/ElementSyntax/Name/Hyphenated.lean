import ElementSyntax.Unicode.WhiteSpace
import ElementSyntax.Unicode.Uppercase
import ElementSyntax.Unicode.Lowercase
import ElementSyntax.Unicode.Numeric
import ElementSyntax.Unicode.CaseMapping

/-!
# Hyphenated names

An element is named with the words of the name its member was declared under, in lower case and
joined by single hyphens: `myURLValue` becomes `my-url-value`.

Underscores, hyphens and white space only separate words.  Inside a run of other characters a word
also starts at a capital letter that follows a small letter or a number, and at the last capital of
a row of capitals when a small letter follows it, so that an acronym stays one word.
-/

namespace ElementSyntax.Name

open Unicode

/-- The characters that stand between words and belong to none. -/
def isSeparator (c : Char) : Bool := c == '_' || c == '-' || isWhiteSpace c

/-- Whether the character `c` starts a word, given the character before it, if any, and the
character after it, if any. -/
def startsWord (before : Option Char) (c : Char) (after : Option Char) : Bool :=
  match before with
  | none => false
  | some b =>
    isSeparator b ||
      (isUppercase c && (isLowercase b || isNumeric b || (isUppercase b && after.any isLowercase)))

/-- The hyphenated form of the characters after `before`.  A separator writes nothing by itself: the
character that comes after it starts a word. -/
def hyphenatedAfter (before : Option Char) : List Char → List Char
  | [] => []
  | c :: rest =>
    if isSeparator c then hyphenatedAfter (some c) rest
    else
      (if startsWord before c rest.head? then ['-'] else []) ++ lowerCase c
        ++ hyphenatedAfter (some c) rest

/-- The words of `name` in lower case, joined by single hyphens. -/
def hyphenated (name : String) : String :=
  String.ofList (hyphenatedAfter none (name.toList.dropWhile isSeparator))

end ElementSyntax.Name
