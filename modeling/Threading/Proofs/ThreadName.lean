import Mathlib.Data.List.TakeWhile
import Threading.ThreadName

/-!
# How a name is cut

`cutName` says what is left of a name. The text can be cut by walking: from the first NUL, or
the most bytes a name takes, back to where a character ends (`boundaryBelow`), and
there the text is sliced (`sliceTo`). Both steps can go wrong: the walk might pass
the beginning of the text, and the slice might split a character. They never do
(`cutByWalking_eq`), because a walk ends where `fitBytes` does (`boundaryBelow_eq`).

No name carries a NUL, or more bytes than there is room for (`ThreadName.carried`), and no
longer beginning of the text could be carried (`isCut_cutName`). So a name that can be carried
whole is not cut (`cutName_of_carried`), and one that is too long keeps all but three bytes of
the room at least (`lt_byteSize_fitBytes`): no character takes more than four.
-/

namespace Threading

/-- The end of the last whole character of the text that ends at the byte `stop` or
    before; `none` if the walk there would pass the beginning of the text. -/
def boundaryBelow (text : String) (stop : Nat) : Option Nat :=
  if (String.Pos.Raw.mk stop).IsValid text then some stop
  else match stop with
    | 0 => none
    | stop + 1 => boundaryBelow text stop

/-- The first `stop` bytes of the text; `none` if a character is split there. -/
def sliceTo (text : String) (stop : Nat) : Option String :=
  if h : (String.Pos.Raw.mk stop).IsValid text then
    some (text.extract text.startPos (text.pos ⟨stop⟩ h))
  else none

/-- The name cut by walking back from the last byte there can be room for. -/
def cutByWalking (text : String) : Option String :=
  let text := String.ofList (text.toList.takeWhile (· != '\x00'))
  (boundaryBelow text (min text.utf8ByteSize maxNameBytes)).bind (sliceTo text)

/-- The bytes of characters. -/
def byteSize : List Char → Nat
  | [] => 0
  | c :: rest => c.utf8Size + byteSize rest

theorem byteSize_cons (c : Char) (rest : List Char) :
    byteSize (c :: rest) = c.utf8Size + byteSize rest := rfl

theorem utf8ByteSize_ofList (text : List Char) :
    (String.ofList text).utf8ByteSize = byteSize text := by
  induction text with
  | nil => rfl
  | cons c rest ih =>
    rw [← List.singleton_append, String.ofList_append, String.utf8ByteSize_append, ih]
    simp [byteSize]

theorem byteSize_toList (text : String) : byteSize text.toList = text.utf8ByteSize := by
  rw [← utf8ByteSize_ofList, String.ofList_toList]

theorem byteSize_fitBytes_le (room : Nat) (text : List Char) :
    byteSize (fitBytes room text) ≤ room := by
  induction text generalizing room with
  | nil => exact Nat.zero_le room
  | cons c rest ih =>
    rw [fitBytes]
    split
    · have := ih (room - c.utf8Size)
      rw [byteSize_cons]
      omega
    · exact Nat.zero_le room

/-- What fits is the beginning of the text. -/
theorem fitBytes_isPrefix (room : Nat) (text : List Char) : fitBytes room text <+: text := by
  induction text generalizing room with
  | nil => exact List.prefix_refl []
  | cons c rest ih =>
    rw [fitBytes]
    split
    · exact (List.prefix_cons_inj c).2 (ih _)
    · exact List.nil_prefix

/-- Exactly the beginning of the text that takes all the room fits in it. -/
theorem fitBytes_byteSize_take (i : Nat) (text : List Char) :
    byteSize (fitBytes (byteSize (text.take i)) text) = byteSize (text.take i) := by
  induction text generalizing i with
  | nil => simp [fitBytes]
  | cons c rest ih =>
    cases i with
    | zero =>
      have hc : ¬c.utf8Size ≤ 0 := Nat.not_le.2 c.utf8Size_pos
      simp [fitBytes, byteSize, hc]
    | succ i =>
      rw [List.take_succ_cons, byteSize_cons, fitBytes, if_pos (Nat.le_add_right _ _),
        byteSize_cons, Nat.add_sub_cancel_left, ih]

/-- Room for one byte more that is not used makes no difference. -/
theorem fitBytes_succ (room : Nat) (text : List Char)
    (h : byteSize (fitBytes (room + 1) text) ≠ room + 1) :
    fitBytes (room + 1) text = fitBytes room text := by
  induction text generalizing room with
  | nil => rfl
  | cons c rest ih =>
    simp only [fitBytes] at h ⊢
    by_cases hc : c.utf8Size ≤ room
    · have hroom : room + 1 - c.utf8Size = room - c.utf8Size + 1 := by omega
      rw [if_pos (Nat.le_succ_of_le hc), hroom, byteSize_cons] at h
      rw [if_pos (Nat.le_succ_of_le hc), if_pos hc, hroom, ih _ (by omega)]
    · rw [if_neg hc]
      split
      · next hle =>
        -- The character takes the one byte more, so it uses it.
        have hexact : c.utf8Size = room + 1 := by omega
        have hnone : byteSize (fitBytes 0 rest) = 0 := Nat.le_zero.1 (byteSize_fitBytes_le 0 rest)
        rw [if_pos hle, byteSize_cons, hexact, Nat.sub_self, hnone] at h
        exact absurd rfl h
      · rfl

/-- All of the text fits in as much room as it takes. -/
theorem fitBytes_of_le {room : Nat} {text : List Char} (h : byteSize text ≤ room) :
    fitBytes room text = text := by
  induction text generalizing room with
  | nil => rfl
  | cons c rest ih =>
    rw [byteSize_cons] at h
    rw [fitBytes, if_pos (by omega), ih (by omega)]

theorem byteSize_append (xs ys : List Char) : byteSize (xs ++ ys) = byteSize xs + byteSize ys := by
  induction xs with
  | nil => rw [List.nil_append, byteSize, Nat.zero_add]
  | cons c xs ih => rw [List.cons_append, byteSize_cons, byteSize_cons, ih, Nat.add_assoc]

/-- What follows a text that takes all the room does not matter. -/
theorem fitBytes_append_of_le {room : Nat} {xs : List Char} (h : room ≤ byteSize xs)
    (ys : List Char) : fitBytes room (xs ++ ys) = fitBytes room xs := by
  induction xs generalizing room with
  | nil =>
    obtain rfl := Nat.le_zero.1 h
    rw [List.nil_append, fitBytes]
    cases ys with
    | nil => rfl
    | cons c ys => rw [fitBytes, if_neg (Nat.not_le.2 c.utf8Size_pos)]
  | cons c xs ih =>
    rw [byteSize_cons] at h
    rw [List.cons_append, fitBytes, fitBytes, ih (by omega)]

/-- Every beginning of the text that fits is in what fits. -/
theorem isPrefix_fitBytes {room : Nat} {xs text : List Char} (h : xs <+: text)
    (hle : byteSize xs ≤ room) : xs <+: fitBytes room text := by
  induction xs generalizing room text with
  | nil => exact List.nil_prefix
  | cons c xs ih =>
    obtain ⟨ys, rfl⟩ := h
    rw [byteSize_cons] at hle
    rw [List.cons_append, fitBytes, if_pos (by omega), List.prefix_cons_inj]
    exact ih (List.prefix_append xs ys) (by omega)

/-- A text that does not fit is cut before the first character for which there is no room. -/
theorem lt_byteSize_fitBytes {room : Nat} {text : List Char} (h : room < byteSize text) :
    room < byteSize (fitBytes room text) + 4 := by
  induction text generalizing room with
  | nil => exact absurd h (Nat.not_lt_zero room)
  | cons c rest ih =>
    rw [byteSize_cons] at h
    rw [fitBytes]
    split
    · have hrest : room - c.utf8Size < byteSize rest := by omega
      have := ih hrest
      rw [byteSize_cons]
      omega
    · have := c.utf8Size_le_four
      omega

/-- A character ends at the byte `stop` if what fits in so many bytes takes all of them. -/
theorem isValid_iff (text : List Char) (stop : Nat) :
    (String.Pos.Raw.mk stop).IsValid (String.ofList text) ↔
      byteSize (fitBytes stop text) = stop := by
  rw [String.Pos.Raw.isValid_ofList]
  simp only [utf8ByteSize_ofList]
  constructor
  · rintro ⟨i, rfl⟩
    exact fitBytes_byteSize_take i text
  · intro h
    refine ⟨(fitBytes stop text).length, ?_⟩
    rw [← List.prefix_iff_eq_take.1 (fitBytes_isPrefix stop text), h]

/-- The walk ends where what fits ends, and so it never passes the beginning. -/
theorem boundaryBelow_eq (text : List Char) (stop : Nat) :
    boundaryBelow (String.ofList text) stop = some (byteSize (fitBytes stop text)) := by
  induction stop with
  | zero =>
    have h : byteSize (fitBytes 0 text) = 0 := Nat.le_zero.1 (byteSize_fitBytes_le 0 text)
    rw [boundaryBelow, if_pos ((isValid_iff text 0).2 h), h]
  | succ stop ih =>
    rw [boundaryBelow]
    split
    · next h => rw [(isValid_iff text (stop + 1)).1 h]
    · next h =>
      rw [isValid_iff] at h
      rw [fitBytes_succ stop text h]
      exact ih

/-- Where what fits ends, no character is split. -/
theorem sliceTo_eq (text : List Char) (room : Nat) :
    sliceTo (String.ofList text) (byteSize (fitBytes room text)) =
      some (String.ofList (fitBytes room text)) := by
  obtain ⟨rest, hrest⟩ := fitBytes_isPrefix room text
  generalize fitBytes room text = kept at hrest
  subst hrest
  have hvalid : (String.Pos.Raw.mk (byteSize kept)).IsValid (String.ofList (kept ++ rest)) :=
    String.Pos.Raw.isValid_ofList.2 ⟨kept.length, by rw [List.take_left, utf8ByteSize_ofList]⟩
  have hsize : byteSize kept = (String.ofList kept).toByteArray.size := by
    rw [← utf8ByteSize_ofList, String.size_toByteArray]
  rw [sliceTo, dif_pos hvalid]
  refine congrArg some (String.toByteArray_inj.1 ?_)
  rw [String.toByteArray_extract]
  change (String.ofList (kept ++ rest)).toByteArray.extract 0 (byteSize kept) = _
  rw [String.ofList_append, String.toByteArray_append, hsize, ByteArray.extract_append_eq_left rfl]

/-- Cutting a name by walking never passes the beginning of the text and never splits a
    character: what is left is the part of the name that the operating system carries. -/
theorem cutByWalking_eq (text : String) : cutByWalking text = some (cutName text) := by
  have hroom (text : List Char) :
      fitBytes (min (byteSize text) maxNameBytes) text = fitBytes maxNameBytes text := by
    rcases Nat.le_total (byteSize text) maxNameBytes with h | h
    · rw [Nat.min_eq_left h, fitBytes_of_le le_rfl, fitBytes_of_le h]
    · rw [Nat.min_eq_right h]
  rw [cutByWalking, cutName, cutChars, utf8ByteSize_ofList, boundaryBelow_eq, Option.bind_some,
    sliceTo_eq, hroom]

/-! ## What the operating system carries -/

/-- The operating system carries the name whole: there is no NUL in it, and it is not too long. -/
structure Carried (name : String) : Prop where
  no_nul : '\x00' ∉ name.toList
  bytes_le : name.utf8ByteSize ≤ maxNameBytes

theorem carried_cutName (text : String) : Carried (cutName text) where
  no_nul h := by
    rw [cutName, String.toList_ofList] at h
    have := List.mem_takeWhile_imp ((fitBytes_sublist _ _).subset h)
    simp at this
  bytes_le := by
    rw [cutName, utf8ByteSize_ofList]
    exact byteSize_fitBytes_le _ _

theorem ThreadName.carried (name : ThreadName) : Carried name.text :=
  name.cut_text ▸ carried_cutName name.text

/-- A name that can be carried whole is not cut. -/
theorem cutName_of_carried {name : String} (h : Carried name) : cutName name = name := by
  have hall : name.toList.takeWhile (· != '\x00') = name.toList := by
    rw [List.takeWhile_eq_self_iff]
    exact fun c hc => bne_iff_ne.2 fun hnul => h.no_nul (hnul ▸ hc)
  have hle : byteSize name.toList ≤ maxNameBytes := byteSize_toList name ▸ h.bytes_le
  rw [cutName, cutChars, hall, fitBytes_of_le hle, String.ofList_toList]

/-- The text cut to `name`: the longest beginning of it that the operating system carries. -/
structure IsCut (text name : String) : Prop where
  isPrefix : name.toList <+: text.toList
  carried : Carried name
  longest : ∀ other : String, other.toList <+: text.toList → Carried other →
    other.toList <+: name.toList

/-- A text is cut no shorter than it must be. -/
theorem isCut_cutName (text : String) : IsCut text (cutName text) where
  isPrefix := by
    rw [cutName, String.toList_ofList]
    exact (fitBytes_isPrefix _ _).trans (List.takeWhile_prefix _)
  carried := carried_cutName text
  longest other hprefix hother := by
    obtain ⟨rest, hrest⟩ := hprefix
    have hkept : other.toList <+: text.toList.takeWhile (· != '\x00') := by
      rw [← hrest, List.takeWhile_append_of_pos]
      · exact List.prefix_append _ _
      · exact fun c hc => bne_iff_ne.2 fun hnul => hother.no_nul (hnul ▸ hc)
    have hle : byteSize other.toList ≤ maxNameBytes := byteSize_toList other ▸ hother.bytes_le
    rw [cutName, String.toList_ofList]
    exact isPrefix_fitBytes hkept hle

end Threading
