import SpecLint.Vocabulary

namespace SpecLint

-- The limits of a run, the files that a directory is searched for, and the words of its documents.
structure Config where
  maxFunctions : Nat
  maxInputs : Nat
  maxRuleLength : Nat
  maxRules : Nat
  extensions : List Text
  vocabulary : Vocabulary
deriving DecidableEq

namespace Config

def standard : Config :=
  { maxFunctions := 10
    maxInputs := 6
    maxRuleLength := 200
    maxRules := 15
    extensions := ["simplex".toList]
    vocabulary := .standard }

end Config
end SpecLint
