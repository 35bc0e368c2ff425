import GridQuery.Text.Case

/-!
# Wildcards

Patterns in which `%` stands for any text and `_` for any character, and an escape character makes the
one after it stand for itself.  Latin letters match in either case, and U+0000 ends both sides.
-/

namespace GridQuery.Text

inductive Wildcard
  | anyText
  | anyChar
  | char (c : Char)
deriving DecidableEq

namespace Wildcard

/-- The wildcards of a pattern; none if the escape character stands at its end. -/
def read? (escape : Char) : List Char → Option (List Wildcard)
  | [] => some []
  | [c] => if c = escape then none else some [plain c]
  | c :: d :: rest =>
    if c = escape then (read? escape rest).map (char d :: ·)
    else (read? escape (d :: rest)).map (plain c :: ·)
where
  plain (c : Char) : Wildcard := if c = '%' then anyText else if c = '_' then anyChar else char c

def someEnd (holds : List Char → Bool) : List Char → Bool
  | [] => holds []
  | c :: rest => holds (c :: rest) || someEnd holds rest

def covers : List Wildcard → List Char → Bool
  | [], text => text.isEmpty
  | anyText :: rest, text => someEnd (covers rest) text
  | anyChar :: rest, _ :: text => covers rest text
  | char c :: rest, d :: text => c.toLower == d.toLower && covers rest text
  | _ :: _, [] => false

end Wildcard

/-- What is before the first U+0000. -/
def beforeNul (text : List Char) : List Char := text.takeWhile (· != '\x00')

def isLike (escape : Char) (pattern text : List Char) : Bool :=
  (Wildcard.read? escape (beforeNul pattern)).any (Wildcard.covers · (beforeNul text))

def literal (escape : Char) (text : List Char) : List Char :=
  text.flatMap fun c => if c = escape ∨ c = '%' ∨ c = '_' then [escape, c] else [c]

def containing (pattern : List Char) : List Char := '%' :: pattern ++ ['%']

end GridQuery.Text
