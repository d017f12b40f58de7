namespace SpecLint

-- Counts are words of 64 bits. A signed word reaches half as far.
def wordLimit : Nat := 0x10000000000000000

def signedLimit : Nat := 0x8000000000000000

-- A sum that outgrows the word begins again at zero.
def addWord (a b : Nat) : Nat := (a + b) % wordLimit

end SpecLint
