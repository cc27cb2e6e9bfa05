import ControllerClient.Text

/-!
Text in letters, digits and hyphens of ASCII: the characters of ASCII as they
are, and behind a hyphen where the others stand and what they are. Codes are
taken in rising order; each is written as its distance from the one before, in
digits whose weights adapt to the distances seen so far.
-/

namespace ControllerClient.Text.Punycode

def digit (n : Nat) : Char := if n < 26 then Char.ofNat (n + 97) else Char.ofNat (n + 22)

/-- The least digit that does not end a number, for the digits at some place. -/
def threshold (place bias : Nat) : Nat :=
  if place ≤ bias + 1 then 1 else if bias + 26 ≤ place then 26 else place - bias

theorem threshold_bounds (place bias : Nat) :
    1 ≤ threshold place bias ∧ threshold place bias ≤ 26 := by
  unfold threshold
  split
  · omega
  · split <;> omega

def digits (bias place distance : Nat) : Text :=
  let least := threshold place bias
  if distance < least then [digit distance]
  else
    digit (least + (distance - least) % (36 - least))
      :: digits bias (place + 36) ((distance - least) / (36 - least))
termination_by distance
decreasing_by
  have bounds := threshold_bounds place bias
  have smaller := Nat.div_le_self (distance - threshold place bias) (36 - threshold place bias)
  omega

def reduced (places distance : Nat) : Nat × Nat :=
  if 455 < distance then reduced (places + 36) (distance / 35) else (places, distance)
termination_by distance
decreasing_by omega

def adapted (distance written : Nat) (isFirst : Bool) : Nat :=
  let halved := if isFirst then distance / 700 else distance / 2
  let (places, rest) := reduced 0 (halved + halved / written)
  places + 36 * rest / (rest + 38)

structure Progress where
  output : Text
  distance : Nat
  bias : Nat
  written : Nat
  isFirst : Bool

def Progress.pass (code : Nat) (progress : Progress) (c : Char) : Progress :=
  if c.toNat < code then { progress with distance := progress.distance + 1 }
  else if c.toNat = code then
    { output := progress.output ++ digits progress.bias 36 progress.distance
      distance := 0
      bias := adapted progress.distance (progress.written + 1) progress.isFirst
      written := progress.written + 1
      isFirst := false }
  else progress

def Progress.run (text : Text) (progress : Progress) (least : Nat) : List Nat → Progress
  | [] => progress
  | code :: later =>
    let skipped := (code - least) * (progress.written + 1)
    let passed := text.foldl (Progress.pass code)
      { progress with distance := progress.distance + skipped }
    Progress.run text { passed with distance := passed.distance + 1 } (code + 1) later

def inserted (code : Nat) : List Nat → List Nat
  | [] => [code]
  | first :: later =>
    if code < first then code :: first :: later
    else if code = first then first :: later
    else first :: inserted code later

def encode (text : Text) : Text :=
  let plain := text.filter fun c => c.toNat < 128
  let others := text.filter fun c => 128 ≤ c.toNat
  let codes := others.foldl (fun codes c => inserted c.toNat codes) []
  let start : Progress :=
    { output := plain ++ (if plain.isEmpty then [] else ['-'])
      distance := 0
      bias := 72
      written := plain.length
      isFirst := true }
  (start.run text 128 codes).output

end ControllerClient.Text.Punycode
