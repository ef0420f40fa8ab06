/-
# Socket buffers

`struct sk_buff` as the driver uses it: the room before the data, the data,
and the memory behind it up to the end of the buffer. Bytes before the data
are never read before they are written, so of the headroom only its size
matters; of the tailroom the bytes stay, since reads run past the data in
places.

Key definitions: `SkBuff`, `devAllocSkb`, `put`, `pull`, `push`, `trim`,
`insertIv`, `removeIv`.
-/
import Rtl8187.Frame

namespace Rtl8187

open Bytes

structure SkBuff where
  headroom : ℕ
  data : List UInt8
  behind : List UInt8
  deriving DecidableEq

namespace SkBuff

/-- `skb->len` -/
def len (skb : SkBuff) : ℕ := skb.data.length

/-- `skb_tailroom` -/
def tailroom (skb : SkBuff) : ℕ := skb.behind.length

/-- The memory from `skb->data` on. -/
def mem (skb : SkBuff) : List UInt8 := skb.data ++ skb.behind

/-- The byte `skb->data[i]`, also behind the data. -/
def byte (skb : SkBuff) (i : ℕ) : UInt8 := at8 skb.mem i

/-- `dev_alloc_skb`: 16 bytes of headroom, and the size rounded up to a cache
line. -/
def devAllocSkb (size : ℕ) : SkBuff :=
  ⟨16, [], List.replicate ((size + 16 + 63) / 64 * 64 - 16) 0⟩

/-- `skb_put`, and what is then written there. -/
def put (skb : SkBuff) (bs : List UInt8) : SkBuff :=
  { skb with data := skb.data ++ bs, behind := skb.behind.drop bs.length }

/-- `skb_pull`: nothing happens when there is not that much data. -/
def pull (skb : SkBuff) (n : ℕ) : SkBuff :=
  if skb.len < n then skb
  else { skb with headroom := skb.headroom + n, data := skb.data.drop n }

/-- `skb_push`, and what is then written there. -/
def push (skb : SkBuff) (bs : List UInt8) : SkBuff :=
  { skb with headroom := skb.headroom - bs.length, data := bs ++ skb.data }

/-- `skb_trim` -/
def trim (skb : SkBuff) (n : ℕ) : SkBuff :=
  if skb.len ≤ n then skb
  else { skb with data := skb.data.take n, behind := skb.data.drop n ++ skb.behind }

/-- `skb_reserve` on an empty buffer. -/
def reserve (skb : SkBuff) (n : ℕ) : SkBuff :=
  { skb with headroom := skb.headroom + n, behind := skb.behind.drop n }

/-- `skb_push(skb, n)`, the header moved to the front, and the IV written
behind it. -/
def insertIv (skb : SkBuff) (hdrLen : ℕ) (iv : List UInt8) : SkBuff :=
  { skb with
    headroom := skb.headroom - iv.length
    data := skb.data.take hdrLen ++ iv ++ skb.data.drop hdrLen }

/-- The header moved over the `n` bytes of the IV, and `skb_pull(skb, n)`. -/
def removeIv (skb : SkBuff) (hdrLen n : ℕ) : SkBuff :=
  { skb with
    headroom := skb.headroom + n
    data := skb.data.take hdrLen ++ skb.data.drop (hdrLen + n) }

/-- Decrypted data, less the `n` bytes of the IV and the last `m` bytes. -/
def strip (skb : SkBuff) (hdrLen n m : ℕ) : SkBuff :=
  (skb.removeIv hdrLen n).trim ((skb.removeIv hdrLen n).len - m)

/-! ### The data after each operation -/

section

variable (skb : SkBuff) (bs : List UInt8) (n hdrLen : ℕ)

@[simp] theorem put_data : (skb.put bs).data = skb.data ++ bs := rfl

@[simp] theorem put_headroom : (skb.put bs).headroom = skb.headroom := rfl

@[simp] theorem put_behind : (skb.put bs).behind = skb.behind.drop bs.length := rfl

@[simp] theorem push_data : (skb.push bs).data = bs ++ skb.data := rfl

@[simp] theorem reserve_data : (skb.reserve n).data = skb.data := rfl

@[simp] theorem insertIv_data :
    (skb.insertIv hdrLen bs).data = skb.data.take hdrLen ++ bs ++ skb.data.drop hdrLen := rfl

@[simp] theorem removeIv_data :
    (skb.removeIv hdrLen n).data = skb.data.take hdrLen ++ skb.data.drop (hdrLen + n) := rfl

theorem trim_data : (skb.trim n).data = skb.data.take n := by
  unfold trim len
  split_ifs with h
  · exact (List.take_of_length_le h).symm
  · rfl

/-- Between header and tail, what is left is the body. -/
theorem strip_data {front body : List UInt8} {m : ℕ} (hf : front.length = hdrLen + n)
    (hd : skb.data = front ++ body) (hm : m ≤ body.length) :
    (skb.strip hdrLen n m).data = front.take hdrLen ++ body.take (body.length - m) := by
  have hhdr : (front.take hdrLen).length = hdrLen := by
    rw [List.length_take]
    omega
  have hcut : (front ++ body).take hdrLen = front.take hdrLen :=
    List.take_append_of_le_length (by omega)
  simp only [strip, trim_data, removeIv_data, len, hd, hcut]
  rw [List.drop_left' hf, List.take_append, hhdr, List.take_of_length_le (by simp; omega)]
  congr 2
  rw [List.length_append, hhdr]
  omega

variable {skb n} in
theorem pull_data (h : n ≤ skb.len) : (skb.pull n).data = skb.data.drop n := by
  rw [pull, if_neg (Nat.not_lt.mpr h)]

end

end SkBuff

end Rtl8187
