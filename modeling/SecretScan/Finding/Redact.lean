import SecretScan.Text.Basic

/-!
# Redaction

A secret is shown in part, enough to recognise it: its first four and last two characters. A secret
of at most six characters would be shown whole that way, so nothing of it is shown.
-/

namespace SecretScan

/-- What stands for a secret of which nothing is shown. -/
def hidden : Text :=
  "[REDACTED]".toList

/-- The secret with all but its ends left out. -/
def redact (secret : Text) : Text :=
  if secret.length ≤ 6 then hidden
  else secret.take 4 ++ "...".toList ++ secret.drop (secret.length - 2)

end SecretScan
