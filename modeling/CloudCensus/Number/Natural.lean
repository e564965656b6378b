namespace CloudCensus

def twoTo (n : Nat) : Nat := Nat.pow 2 n

def tenTo (n : Nat) : Nat := Nat.pow 10 n

def total (ns : List Nat) : Nat := ns.foldr (· + ·) 0

end CloudCensus
