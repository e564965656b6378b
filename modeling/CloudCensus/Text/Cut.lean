namespace CloudCensus

def cutAt (c : Char) : List Char → Option (List Char × List Char)
  | [] => none
  | d :: rest => if d = c then some ([], rest) else (cutAt c rest).map fun (a, b) => (d :: a, b)

def dropLead? (lead cs : List Char) : Option (List Char) :=
  if lead.isPrefixOf cs then some (cs.drop lead.length) else none

def afterLead? (lead text : String) : Option String :=
  (dropLead? lead.toList text.toList).map String.ofList

def endsIn (ending text : String) : Bool := ending.toList.isSuffixOf text.toList

def hasPart (part : List Char) : List Char → Bool
  | [] => part.isEmpty
  | c :: rest => part.isPrefixOf (c :: rest) || hasPart part rest

def occursIn (part text : String) : Bool := hasPart part.toList text.toList

end CloudCensus
