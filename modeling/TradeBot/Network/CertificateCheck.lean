import Mathlib.Data.Int.Notation
import TradeBot.Library.ShellWords

/-!
# The certificate check

`validateCertificateChainForTest` of `AsyncNetworkClient.cpp`, which hands two paths to a shell.
A path is any byte string. The files that exist and the shell are parameters.
-/

namespace TradeBot

open Library

namespace AsyncNetworkClient

def shellEscapeSingleQuoted (text : Bytes) : Bytes :=
  text.foldl (fun out c => if c = shellQuote then out ++ ascii "'\\''" else out ++ [c]) []

/-- The command of `validateCertificateChainForTest`. -/
def verifyCommand (caCertPath certPath : Bytes) : Bytes :=
  ascii "openssl verify -CAfile '" ++ (shellEscapeSingleQuoted caCertPath ++ (ascii "' '" ++
    (shellEscapeSingleQuoted certPath ++ ascii "' > /dev/null 2>&1")))

/-- `validateCertificateChainForTest`: whether the chain is accepted, and the error. -/
def validateCertificateChainForTest (fileExists : Bytes → Bool) (system : Bytes → ℤ)
    (caCertPath certPath : Bytes) : Bool × String :=
  if !fileExists caCertPath then (false, "CA certificate file not found")
  else if !fileExists certPath then (false, "Target certificate file not found")
  else if system (cString (verifyCommand caCertPath certPath)) ≠ 0 then
    (false, "openssl verify rejected certificate")
  else (true, "")

/-- The call of `openssl`, with its output thrown away. Only the two paths are quoted. -/
def verification (caCertPath certPath : Bytes) : List ShellToken := [
  .text false (ascii "openssl"), .blank,
  .text false (ascii "verify"), .blank,
  .text false (ascii "-CAfile"), .blank,
  .text true caCertPath, .blank,
  .text true certPath, .blank,
  .operator (byteOf '>'), .blank,
  .text false (ascii "/dev/null"), .blank,
  -- nothing stands between the four: the error output goes where the output goes
  .text false (ascii "2"), .operator (byteOf '>'), .operator (byteOf '&'),
  .text false (ascii "1")]

/-- The escaping of the code is quoting for the shell. -/
theorem shellEscapeSingleQuoted_eq (text : Bytes) :
    shellEscapeSingleQuoted text = quotedForShell text := by
  have hloop : ∀ out : Bytes, text.foldl (fun out c =>
      if c = shellQuote then out ++ ascii "'\\''" else out ++ [c]) out =
      out ++ quotedForShell text := by
    induction text with
    | nil => exact fun out => (List.append_nil out).symm
    | cons c text ih =>
      intro out
      rw [List.foldl_cons, ih, quotedForShell_cons]
      split <;> rw [List.append_assoc]
  exact hloop []

/-- **The shell reads the two paths as they are.** Whatever bytes the paths are made of, the
command is the one call of `openssl` with the paths as its last two words; a path with a zero
byte cuts it inside of a quoted text. -/
theorem shellTokens_verifyCommand (caCertPath certPath : Bytes) :
    shellTokens (cString (verifyCommand caCertPath certPath)) =
      if 0 ∈ caCertPath ∨ 0 ∈ certPath then .error .unterminated
      else .ok (verification caCertPath certPath) := by
  have hopens (rest : Bytes) :
      shellTokensFrom .plain ([], none) (ascii "openssl verify -CAfile '" ++ rest) =
        shellTokensFrom .quoted ([.text false (ascii "openssl"), .blank,
          .text false (ascii "verify"), .blank, .text false (ascii "-CAfile"), .blank],
          some (true, [])) rest := rfl
  have hnext (tokens : List ShellToken) (word rest : Bytes) :
      shellTokensFrom .quoted (tokens, some (true, word)) (ascii "' '" ++ rest) =
        shellTokensFrom .quoted (tokens ++ [.text true word] ++ [.blank], some (true, []))
          rest := rfl
  have hopening : (0 : UInt8) ∉ ascii "openssl verify -CAfile '" := by decide
  have hmiddle : (0 : UInt8) ∉ ascii "' '" := by decide
  rw [verifyCommand, shellEscapeSingleQuoted_eq, shellEscapeSingleQuoted_eq,
    cString_append_of_notMem hopening, shellTokens, hopens]
  by_cases hca : (0 : UInt8) ∈ caCertPath
  · rw [cString_append_of_mem (zero_mem_quotedForShell.mpr hca), cString_quotedForShell,
      shellTokensFrom_unterminated, if_pos (.inl hca)]
  · rw [cString_append_of_notMem (mt zero_mem_quotedForShell.mp hca), shellTokensFrom_quoted,
      cString_append_of_notMem hmiddle, hnext]
    by_cases hcert : (0 : UInt8) ∈ certPath
    · rw [cString_append_of_mem (zero_mem_quotedForShell.mpr hcert), cString_quotedForShell,
        shellTokensFrom_unterminated, if_pos (.inr hcert)]
    · rw [cString_append_of_notMem (mt zero_mem_quotedForShell.mp hcert), shellTokensFrom_quoted,
        if_neg (not_or.mpr ⟨hca, hcert⟩)]
      rfl

/-- **What an accepted chain means.** Let the shell run a command that it cuts into the call of
`openssl` on two paths as this call, and let it fail on a command that ends inside of a quoted
text. Then a chain is accepted exactly when both files exist and the call of `openssl` with the two
paths as they are succeeds. No path can make the shell run anything else. -/
theorem validateCertificateChainForTest_iff {fileExists : Bytes → Bool} {system : Bytes → ℤ}
    {openssl : Bytes → Bytes → ℤ}
    (hcalls : ∀ command caCertPath certPath, 0 ∉ command →
      shellTokens command = .ok (verification caCertPath certPath) →
        system command = openssl caCertPath certPath)
    (hfails : ∀ command, 0 ∉ command → shellTokens command = .error .unterminated →
      system command ≠ 0)
    (caCertPath certPath : Bytes) :
    validateCertificateChainForTest fileExists system caCertPath certPath = (true, "") ↔
      (fileExists caCertPath = true ∧ fileExists certPath = true) ∧
        (0 ∉ caCertPath ∧ 0 ∉ certPath) ∧ openssl caCertPath certPath = 0 := by
  have htokens := shellTokens_verifyCommand caCertPath certPath
  unfold validateCertificateChainForTest
  cases hca : fileExists caCertPath with
  | false => simp
  | true =>
    cases hcert : fileExists certPath with
    | false => simp
    | true =>
      by_cases hzero : 0 ∈ caCertPath ∨ 0 ∈ certPath
      · rw [if_pos hzero] at htokens
        have hrefused := hfails _ (zero_notMem_cString _) htokens
        have hnot : ¬(0 ∉ caCertPath ∧ 0 ∉ certPath) := fun h => not_or.mpr h hzero
        simp [hrefused, hnot]
      · rw [if_neg hzero] at htokens
        rw [hcalls _ _ _ (zero_notMem_cString _) htokens]
        have hboth := not_or.mp hzero
        by_cases hrc : openssl caCertPath certPath = 0 <;> simp [hrc, hboth]

/-- An `openssl` that accepts one certificate, in a file of an odd name. -/
def oneCertificate (caCertPath certPath : Bytes) : ℤ :=
  if verification caCertPath certPath = verification (ascii "ca.pem") (ascii "a'; rm b") then 0
  else 2

/-- A shell that knows this call and fails on every other command. -/
def oneCallShell (command : Bytes) : ℤ :=
  match shellTokens command with
  | .ok tokens => if tokens = verification (ascii "ca.pem") (ascii "a'; rm b") then 0 else 2
  | .error _ => 2

/-- A path that would be a second command if it were not quoted. -/
theorem validateCertificateChainForTest_iff_quoted :
    validateCertificateChainForTest (fun _ => true) oneCallShell (ascii "ca.pem")
      (ascii "a'; rm b") = (true, "") :=
  (@validateCertificateChainForTest_iff (fun _ => true) oneCallShell oneCertificate
    (fun command caCertPath certPath _ h => by rw [oneCallShell, h, oneCertificate])
    (fun command _ h => by rw [oneCallShell, h]; decide) _ _).mpr
    ⟨⟨rfl, rfl⟩, by decide, if_pos rfl⟩

end AsyncNetworkClient

end TradeBot
