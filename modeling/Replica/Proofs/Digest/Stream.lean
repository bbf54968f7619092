import Mathlib.Data.List.Basic
import Replica.Digest.Hasher

/-!
# A stream has the digest of its octets

However a message is cut into pieces, the hasher that takes them one after the other ends with the
digest of the whole.

* `absorb_of_lt`, `absorb_of_le`: what `absorb` does with less and with more than a block;
* **`absorb_append`**: what is left of some octets is absorbed with those that follow;
* `Hasher.Saw`: the state of a hasher that has taken a message, and `Hasher.Saw.update`;
* **`finish_updateAll`**, **`finishHex_updateAll`**.
-/

namespace Replica.Sha256

/-! ## Whole blocks -/

theorem isEmpty_drop_iff {bs : Bytes} : (bs.drop 63).isEmpty = true ↔ bs.length < 64 := by
  rw [List.isEmpty_iff, List.drop_eq_nil_iff]
  omega

theorem absorb_of_lt {bs : Bytes} (h : bs.length < 64) (s : Chain) : absorb s bs = (s, bs) := by
  rw [absorb, if_pos (isEmpty_drop_iff.2 h)]

theorem absorb_of_le {bs : Bytes} (h : 64 ≤ bs.length) (s : Chain) :
    absorb s bs = absorb (compress s (bs.take 64)) (bs.drop 64) := by
  rw [absorb, if_neg (mt isEmpty_drop_iff.1 (Nat.not_lt.2 h))]

theorem absorb_append (s : Chain) (as bs : Bytes) :
    absorb s (as ++ bs) = absorb (absorb s as).1 ((absorb s as).2 ++ bs) := by
  induction s, as using absorb.induct with
  | case1 s as h => rw [absorb_of_lt (isEmpty_drop_iff.1 h)]
  | case2 s as h ih =>
    have hle : 64 ≤ as.length := Nat.not_lt.1 (mt isEmpty_drop_iff.2 h)
    rw [absorb_of_le hle, ← ih, absorb_of_le (by rw [List.length_append]; omega),
      List.take_append_of_le_length hle, List.drop_append_of_le_length hle]

theorem absorb_fst (s : Chain) (bs : Bytes) : (absorb s bs).1 = (blocks bs).foldl compress s := by
  induction s, bs using absorb.induct with
  | case1 s bs h => rw [absorb, blocks, if_pos h, if_pos h, List.foldl_nil]
  | case2 s bs h ih => rw [absorb, blocks, if_neg h, if_neg h, ih, List.foldl_cons]

/-! ## A hasher at work -/

namespace Hasher

/-- The hasher has taken this message, in whatever pieces. -/
structure Saw (h : Hasher) (message : Bytes) : Prop where
  absorbed : (h.chain, h.pending) = absorb Chain.initial message
  length_eq : h.length = message.length

theorem saw_new : new.Saw [] := ⟨(absorb_of_lt (by decide) _).symm, rfl⟩

theorem Saw.update {h : Hasher} {message : Bytes} (hs : h.Saw message) (piece : Bytes) :
    (h.update piece).Saw (message ++ piece) := by
  refine ⟨?_, ?_⟩
  · rw [absorb_append, ← hs.absorbed]
    rfl
  · rw [List.length_append, ← hs.length_eq]
    rfl

theorem Saw.updateAll {h : Hasher} {message : Bytes} (hs : h.Saw message) (pieces : List Bytes) :
    (h.updateAll pieces).Saw (message ++ pieces.flatten) := by
  induction pieces generalizing h message with
  | nil => simpa [Hasher.updateAll] using hs
  | cons piece pieces ih => simpa [Hasher.updateAll] using ih (hs.update piece)

theorem Saw.finish_eq {h : Hasher} {message : Bytes} (hs : h.Saw message) :
    h.finish = digest message := by
  have hc : h.chain = (absorb Chain.initial message).1 := congrArg Prod.fst hs.absorbed
  have hp : h.pending = (absorb Chain.initial message).2 := congrArg Prod.snd hs.absorbed
  rw [finish, hc, hp, hs.length_eq, ← absorb_append, absorb_fst]
  rfl

/-- **The digest of a stream** is that of its octets. -/
theorem finish_updateAll (pieces : List Bytes) :
    (new.updateAll pieces).finish = digest pieces.flatten :=
  (saw_new.updateAll pieces).finish_eq

/-- **The same in hexadecimal.** -/
theorem finishHex_updateAll (pieces : List Bytes) :
    (new.updateAll pieces).finishHex = hexDigest pieces.flatten := by
  rw [finishHex, hexDigest, finish_updateAll]

end Hasher

end Replica.Sha256
