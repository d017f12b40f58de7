import SpecLint.Rules.Phrase
import SpecLint.Text.Blank
import SpecLint.Text.Lowercase

namespace SpecLint
open Text

namespace Phrase

def ifOr : Phrase := .pair "if".toList ["or".toList] true
def ifElse : Phrase := .pair "if".toList ["otherwise".toList, "else".toList] false
def ifWord : Phrase := .word "if".toList
def whenWord : Phrase := .word "when".toList
def optionally : Phrase := .word "optionally".toList
def eitherOr : Phrase := .pair "either".toList ["or".toList] true

end Phrase

-- What the keywords of a text in lowercase amount to. An `if` with an alternative is two branches,
-- and so is an option; an `if` that no alternative accounts for is one.
def keywordBranches (content : Text) : Nat :=
  let alternatives := Phrase.ifOr.count content + Phrase.ifElse.count content
  2 * alternatives + (Phrase.ifWord.count content - alternatives) + Phrase.whenWord.count content +
    2 * Phrase.optionally.count content + 2 * Phrase.eitherOr.count content

-- Rules without any keyword still say one thing.
def branchCount (rules : Text) : Nat :=
  let counted := keywordBranches (lowercase rules)
  if counted = 0 ∧ trim rules ≠ [] then 1 else counted

end SpecLint
