namespace Allowlist.Text

abbrev Ranges := List (Nat × Nat)

def Ranges.has (n : Nat) : Ranges → Bool
  | [] => false
  | (first, last) :: rs => first ≤ n && (n ≤ last || Ranges.has n rs)

end Allowlist.Text
