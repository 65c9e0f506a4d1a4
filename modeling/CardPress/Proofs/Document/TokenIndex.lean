import CardPress.Document.Blocks

/-!
# Indexes of tokens

An index stands for a place among the tokens, counted from the front or, when it is negative, from
the back.  What is read from an index on is the list of tokens behind it; moving on by some tokens
drops them from this list.
-/

namespace CardPress

variable {tokens rest : List BlockToken} {index : Int}

theorem tokensFrom?_ofNat (tokens : List BlockToken) (index : Nat) :
    tokensFrom? tokens index = .ok (tokens.drop index) := by
  rw [tokensFrom?, if_pos (Int.natCast_nonneg _), Int.toNat_natCast]

/-- The tokens from a position on follow those in front of it. -/
theorem tokensFrom?_length (before rest : List BlockToken) :
    tokensFrom? (before ++ rest) before.length = .ok rest := by
  rw [tokensFrom?_ofNat, List.drop_left]

/-- The tokens from the place of an index on start with those from this place on; from an index that
counts from the back, all tokens follow once more. -/
theorem tokensFrom?_of_position? {place : Nat}
    (stands : Text.position? tokens.length index = some place) :
    ∃ again, tokensFrom? tokens index = .ok (tokens.drop place ++ again) := by
  unfold Text.position? at stands
  unfold tokensFrom?
  split at stands
  · next negative =>
    rw [Option.ite_none_right_eq_some, Option.some.injEq] at stands
    obtain ⟨inside, rfl⟩ := stands
    exact ⟨tokens, by rw [if_neg (by omega), if_pos inside]⟩
  · next nonneg =>
    rw [Option.ite_none_right_eq_some, Option.some.injEq] at stands
    obtain ⟨inside, rfl⟩ := stands
    exact ⟨[], by rw [if_pos (by omega), List.append_nil]⟩

theorem mem_of_tokensFrom? (found : tokensFrom? tokens index = .ok rest) :
    ∀ token ∈ rest, token ∈ tokens := by
  unfold tokensFrom? at found
  split at found
  · cases found
    exact fun token => List.mem_of_mem_drop
  · split at found
    · cases found
      intro token member
      exact (List.mem_append.mp member).elim List.mem_of_mem_drop id
    · cases found

theorem tokensFrom?_map (change : BlockToken → BlockToken) (tokens : List BlockToken)
    (index : Int) :
    tokensFrom? (tokens.map change) index = (tokensFrom? tokens index).map (List.map change) := by
  unfold tokensFrom?
  rw [List.length_map]
  split
  · rw [← List.map_drop]
    rfl
  · split
    · rw [← List.map_drop, ← List.map_append]
      rfl
    · rfl

/-- What is behind an index starts with the token at this index. -/
theorem head?_of_tokensFrom? (found : tokensFrom? tokens index = .ok rest) :
    rest.head? = Text.at? tokens index := by
  unfold tokensFrom? at found
  unfold Text.at? Text.position?
  split at found
  · next nonneg =>
    cases found
    rw [if_neg (by omega), List.head?_drop]
    split
    · rfl
    · next outside => exact List.getElem?_eq_none (by omega)
  · split at found
    · next negative inside =>
      cases found
      have below : (tokens.length + index).toNat < tokens.length := by omega
      rw [if_pos (by omega), if_pos inside, List.head?_append, List.head?_drop,
        List.getElem?_eq_getElem below, Option.bind_some, List.getElem?_eq_getElem below]
      rfl
    · cases found

/-- Nothing is behind an index that is not below the number of tokens, and only behind such one. -/
theorem tokensFrom?_eq_nil_iff (found : tokensFrom? tokens index = .ok rest) :
    rest = [] ↔ tokens.length ≤ index := by
  unfold tokensFrom? at found
  split at found
  · cases found
    rw [List.drop_eq_nil_iff]
    omega
  · split at found
    · cases found
      rw [List.append_eq_nil_iff, ← List.length_eq_zero_iff (l := tokens), List.drop_eq_nil_iff]
      omega
    · cases found

/-- An index too far from the back stands for no token. -/
theorem at?_of_tokensFrom?_error {error : ReadError}
    (failed : tokensFrom? tokens index = .error error) :
    error = .missing ∧ Text.at? tokens index = none ∧ index < tokens.length := by
  unfold tokensFrom? at failed
  split at failed
  · cases failed
  · split at failed
    · cases failed
    · next negative outside =>
      cases failed
      refine ⟨rfl, ?_, by omega⟩
      rw [Text.at?, Text.position?, if_pos (by omega), if_neg outside]
      rfl

/-- Behind the next index stand the same tokens without the first one. -/
theorem tokensFrom?_succ (found : tokensFrom? tokens index = .ok rest) :
    tokensFrom? tokens (index + 1) = .ok rest.tail := by
  unfold tokensFrom? at found
  split at found
  · next nonneg =>
    cases found
    rw [tokensFrom?, if_pos (by omega), List.tail_drop, Int.toNat_add nonneg (by omega)]
    rfl
  · split at found
    · next negative inside =>
      cases found
      have filled : tokens.drop (tokens.length + index).toNat ≠ [] := by
        rw [ne_eq, List.drop_eq_nil_iff]
        omega
      rw [List.tail_append_of_ne_nil filled, List.tail_drop]
      by_cases last : index + 1 = 0
      -- The last token is followed by all tokens once more.
      · have passed : tokens.drop ((tokens.length + index).toNat + 1) = [] :=
          List.drop_eq_nil_of_le (by omega)
        rw [tokensFrom?, if_pos (by omega), last, passed]
        rfl
      · have next : (tokens.length + (index + 1)).toNat = (tokens.length + index).toNat + 1 := by
          omega
        rw [tokensFrom?, if_neg (by omega), if_pos (by omega), next]
    · cases found

/-- Moving on by some tokens drops them from what is behind an index. -/
theorem tokensFrom?_add (found : tokensFrom? tokens index = .ok rest) (count : Nat) :
    tokensFrom? tokens (index + count) = .ok (rest.drop count) := by
  induction count with
  | zero => simpa using found
  | succ count induction =>
      rw [Int.natCast_add, ← Int.add_assoc, Int.natCast_one, tokensFrom?_succ induction,
        List.tail_drop]

/-- The token that closes a container is searched for behind the index of its opening one. -/
theorem closeIndex_eq {token : BlockToken}
    (found : tokensFrom? tokens index = .ok (token :: rest)) :
    closeIndex tokens index = .ok (index + closeDistance token.level rest) := by
  have below : ¬ (tokens.length : Int) ≤ index := by
    rw [← tokensFrom?_eq_nil_iff found]
    simp
  rw [closeIndex, if_neg below, found]
  rfl

end CardPress
