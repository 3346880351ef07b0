import AccessCatalog.Proofs.Json.Cuts
import AccessCatalog.Proofs.Paging.Token

/-! Tokens that were cut. A front of a token is no token, wherever it ends: its letters are no code
of bytes, or its bytes are no document. So a caller that loses the end of a token is told so, and
never goes on from another place. -/
namespace AccessCatalog.Bag

/-- A front of the text of a bag, with an active frame or without one, is refused. -/
theorem written_cut (b : Bag) {cut rest : String} (begun : cut ≠ "") (more : rest ≠ "")
    (whole : b.written = cut ++ rest) : ∃ message, ofToken cut = .error (.invalidToken message) := by
  rw [ofToken, if_neg (by simpa using begun)]
  cases decoded : Text.Base64.decode? cut with
  | none => exact ⟨_, rfl⟩
  | some bytes =>
    obtain ⟨behind, split, strict⟩ := Text.Base64.decode?_cut whole decoded
    have unread := Json.readBytes?_cut b.encode_textual (by decide) split (strict more)
    dsimp only
    rw [unread]
    exact ⟨_, rfl⟩

/-- Every token of a bag that edits of the empty one lead to, refused edits included, is refused once
its end is cut off, and no listing is resumed by what is left of it. -/
theorem truncated_refused (edits : List Edit) {cut rest : String} (begun : cut ≠ "")
    (more : rest ≠ "") (whole : (empty.edited edits).token = cut ++ rest) :
    ∃ message, ofToken cut = .error (.invalidToken message) ∧
      ∀ first, resume cut first = .error (.invalidToken message) := by
  have refused : ∃ message, ofToken cut = .error (.invalidToken message) := by
    cases active : (empty.edited edits).active with
    | none =>
      rw [token_of_exhausted active] at whole
      exact absurd (String.append_eq_empty_iff.mp whole.symm).1 begun
    | some s =>
      rw [token_of_active active] at whole
      exact written_cut _ begun more whole
  obtain ⟨message, refused⟩ := refused
  refine ⟨message, refused, fun first => ?_⟩
  rw [resume, refused]
  rfl

/-- Users are listed from `ü` on; the second cut is made within that letter. -/
theorem truncated_refused_of_users :
    (empty.edited [.seed ["user"], .next "ü"]).token =
      "eyJjdXJyZW50Ijp7InR5cGUiOiJ1c2VyIiwidG9rZW4iOiLDvCJ9fQ" ∧
    (∃ message, ofToken "eyJjdXJyZW50" = .error (.invalidToken message) ∧
      ∀ first, resume "eyJjdXJyZW50" first = .error (.invalidToken message)) ∧
    ∃ message, ofToken "eyJjdXJyZW50Ijp7InR5cGUiOiJ1c2VyIiwidG9rZW4iOiLD" =
        .error (.invalidToken message) ∧
      ∀ first, resume "eyJjdXJyZW50Ijp7InR5cGUiOiJ1c2VyIiwidG9rZW4iOiLD" first =
        .error (.invalidToken message) := by
  have token : (empty.edited [.seed ["user"], .next "ü"]).token =
      "eyJjdXJyZW50Ijp7InR5cGUiOiJ1c2VyIiwidG9rZW4iOiLDvCJ9fQ" := by decide +kernel
  refine ⟨token, ?_, ?_⟩
  · exact truncated_refused [.seed ["user"], .next "ü"] (by decide) (by decide) (token.trans
      (show _ = "eyJjdXJyZW50" ++ "Ijp7InR5cGUiOiJ1c2VyIiwidG9rZW4iOiLDvCJ9fQ" by decide))
  · exact truncated_refused [.seed ["user"], .next "ü"] (by decide) (by decide) (token.trans
      (show _ = "eyJjdXJyZW50Ijp7InR5cGUiOiJ1c2VyIiwidG9rZW4iOiLD" ++ "vCJ9fQ" by decide))

end AccessCatalog.Bag
