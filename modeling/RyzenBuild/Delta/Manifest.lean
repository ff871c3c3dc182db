import RyzenBuild.Delta.HashText
import RyzenBuild.Delta.Transforms
import RyzenBuild.Delta.LuaTables

/-!
`M.manifest` of `delta_link_ffi.lua`, from the bytes of the file to the JSON text and
back. The numbers of a manifest are integers that a Lua number holds exactly, so that
the quotient `M.block_hashes` rounds up is the number of blocks.
-/
namespace RyzenBuild.Delta

open Kernel Memory Digits Running Json Relation

/-- `"0x" .. hex64_u64(u64)`. -/
def hashText (u64 : UInt64) : List UInt8 := text "0x" ++ (hex64U64 u64).getD []

/-- `M.fnv1a64`, which is never nil. -/
def fnvText (data : List UInt8) : List UInt8 := (mFnv1a64 data).getD []

def mBlockHashes (data : List UInt8) (blockSize : Nat) : List (List UInt8) :=
  let cap := max 1 (blockCount data.length blockSize)
  (blockHashes data (UInt64.ofNat blockSize) (fun _ => 0) (UInt64.ofNat cap)).map hashText

/-- The four byte strings of a manifest. -/
inductive Part where
  | source
  | canonical
  | reverseCanonical
  | interReversed
  deriving DecidableEq

namespace Part

def all : List Part := [source, canonical, reverseCanonical, interReversed]

def name : Part → List UInt8
  | source => text "source"
  | canonical => text "canonical"
  | reverseCanonical => text "reverse_canonical"
  | interReversed => text "inter_reversed"

def bytes (data : List UInt8) : Part → List UInt8
  | source => data
  | canonical => mCanonical data
  | reverseCanonical => mReverseCanonical data
  | interReversed => mInterReversed data

end Part

/-- What a manifest is made of: the bytes of the file and the size of a block. -/
structure Source where
  data : List UInt8
  blockSize : Nat
  positive : 0 < blockSize
  sized : blockSize < 10 ^ 14
  small : data.length < 10 ^ 14

section Blocks

theorem fnvText_eq (data : List UInt8) : fnvText data = hashText (fnv data) := by
  rw [← dlFnv1a64_asU8Buf]
  rfl

/-- The blocks that are hashed; of the empty string there is one, which is empty. -/
def blocksOf (data : List UInt8) (blockSize : Nat) : List (List UInt8) :=
  if data = [] then [[]]
  else (List.range (blockCount data.length blockSize)).map (block blockSize data)

theorem blockCount_le (len blockSize : Nat) (positive : 0 < blockSize) :
    blockCount len blockSize ≤ len := by
  by_contra more
  have last := (lt_blockCount len blockSize len positive).mp (Nat.lt_of_not_le more)
  exact absurd last (Nat.not_lt.mpr (Nat.le_mul_of_pos_right _ positive))

theorem blocksOf_few (data : List UInt8) (blockSize : Nat) (positive : 0 < blockSize)
    (small : data.length < 10 ^ 14) : (blocksOf data blockSize).length < 10 ^ 14 := by
  rw [blocksOf]
  split
  · decide
  · rw [List.length_map, List.length_range]
    exact (blockCount_le _ _ positive).trans_lt small

theorem mBlockHashes_eq (data : List UInt8) (blockSize : Nat) (positive : 0 < blockSize)
    (sized : blockSize < 10 ^ 14) (small : data.length < 10 ^ 14) :
    mBlockHashes data blockSize = (blocksOf data blockSize).map fun b => hashText (fnv b) := by
  have few := blockCount_le data.length blockSize positive
  have whole : (UInt64.ofNat blockSize).toNat = blockSize := by
    rw [UInt64.toNat_ofNat']
    omega
  have cap : (UInt64.ofNat (max 1 (blockCount data.length blockSize))).toNat =
      max 1 (blockCount data.length blockSize) := by
    rw [UInt64.toNat_ofNat']
    omega
  rw [mBlockHashes, blocksOf]
  by_cases empty : data = []
  · subst empty
    have room : UInt64.ofNat (max 1 (blockCount ([] : List UInt8).length blockSize)) ≠ 0 := by
      intro none
      rw [none] at cap
      have zero : (0 : UInt64).toNat = 0 := rfl
      omega
    have some_block : UInt64.ofNat blockSize ≠ 0 := by
      intro none
      rw [none] at whole
      have zero : (0 : UInt64).toNat = 0 := rfl
      omega
    have none : UInt64.ofNat ([] : List UInt8).length = 0 := rfl
    simp only [blockHashes, dlBlockHashes, if_neg room, if_neg some_block, none, if_true]
    rfl
  · have hashes := (blockHashes_eq data (UInt64.ofNat blockSize)
      (UInt64.ofNat (max 1 (blockCount data.length blockSize))) (fun _ => 0) empty (by omega)
      (UInt64.le_iff_toNat_le.mpr (by rw [whole]; exact positive))
      (by rw [whole, cap]; exact Nat.le_max_right _ _)).2
    rw [hashes, whole, if_neg empty, List.map_map, List.map_map]
    rfl

theorem part_length (data : List UInt8) (part : Part) :
    (part.bytes data).length = data.length := by
  cases part with
  | source => rfl
  | canonical => rfl
  | reverseCanonical => exact (reverse_laws data).1
  | interReversed => exact (inter_laws data).1

theorem part_blocks (source : Source) (part : Part) :
    mBlockHashes (part.bytes source.data) source.blockSize =
      (blocksOf (part.bytes source.data) source.blockSize).map fun b => hashText (fnv b) :=
  mBlockHashes_eq _ _ source.positive source.sized (part_length source.data part ▸ source.small)

theorem part_few (source : Source) (part : Part) :
    (mBlockHashes (part.bytes source.data) source.blockSize).length < 10 ^ 14 := by
  rw [part_blocks, List.length_map]
  exact blocksOf_few _ _ source.positive (part_length source.data part ▸ source.small)

end Blocks

section Tables

/-- A record with a value for each part. -/
def perPart (value : Part → LuaValue 11) (plain : ∀ part, (value part).Plain) : Table 11 :=
  record (Part.all.map fun part => (part.name, value part))
    (by
      have names : (Part.all.map fun part => (part.name, value part)).map Prod.fst =
          Part.all.map Part.name := by simp
      rw [names]
      decide)
    (by
      intro field member missing
      obtain ⟨part, _, rfl⟩ := List.mem_map.mp member
      have missing : value part = .nil := missing
      have filled := plain part
      rw [missing] at filled
      exact filled)

def linkModes : List (List UInt8) :=
  [text "canonical", text "reverse_canonical", text "inter_reversed"]

theorem modes_few : linkModes.length < 10 ^ 14 := by decide

/-- The names of `delta_link`, with the parts whose deltas to the source they are of. -/
def deltaLinks : List (List UInt8 × Part) :=
  [(text "canonical_delta_hash", .canonical), (text "reverse_delta_hash", .reverseCanonical),
    (text "inter_reversed_delta_hash", .interReversed)]

def deltaFields (source : Source) : List (List UInt8 × LuaValue 11) :=
  deltaLinks.map fun link =>
    (link.1, .string (fnvText (mXorDelta source.data (link.2.bytes source.data))))

def sizeValue (source : Source) : LuaValue 11 :=
  .number (.integer source.blockSize (by have := source.sized; omega))

def manifestFields (source : Source) (emitBlocks : Bool) (path : Option (List UInt8)) :
    List (List UInt8 × LuaValue 11) :=
  [(text "schema", .string (text "tgdk-delta-link/v1")),
    (text "format_family", .string (text "posix-delta-link-ffi")),
    (text "block_size", sizeValue source),
    (text "link_modes", .table 1), (text "lengths", .table 2), (text "hashes", .table 3),
    (text "delta_link", .table 4), (text "block_hash_roots", .table 5)] ++
  (if emitBlocks then [(text "block_hashes", .table 6)] else []) ++
  path.toList.map fun path => (text "path", .string path)

theorem manifest_names (source : Source) (emitBlocks : Bool) (path : Option (List UInt8)) :
    ((manifestFields source emitBlocks path).map Prod.fst).Nodup := by
  cases emitBlocks with
  | false =>
      cases path with
      | none => exact (by decide : [text "schema", text "format_family", text "block_size",
          text "link_modes", text "lengths", text "hashes", text "delta_link",
          text "block_hash_roots"].Nodup)
      | some path => exact (by decide : [text "schema", text "format_family", text "block_size",
          text "link_modes", text "lengths", text "hashes", text "delta_link",
          text "block_hash_roots", text "path"].Nodup)
  | true =>
      cases path with
      | none => exact (by decide : [text "schema", text "format_family", text "block_size",
          text "link_modes", text "lengths", text "hashes", text "delta_link",
          text "block_hash_roots", text "block_hashes"].Nodup)
      | some path => exact (by decide : [text "schema", text "format_family", text "block_size",
          text "link_modes", text "lengths", text "hashes", text "delta_link",
          text "block_hash_roots", text "block_hashes", text "path"].Nodup)

theorem manifest_filled (source : Source) (emitBlocks : Bool) (path : Option (List UInt8)) :
    ∀ field ∈ manifestFields source emitBlocks path, field.2 ≠ .nil := by
  intro field member
  simp only [manifestFields, List.mem_append, List.mem_cons, List.not_mem_nil, or_false] at member
  rcases member with ((rfl | rfl | rfl | rfl | rfl | rfl | rfl | rfl) | blocks) | last
  case inl.inr =>
    split at blocks
    · obtain rfl := List.mem_singleton.mp blocks
      exact nofun
    · cases blocks
  case inr =>
    obtain ⟨_, _, rfl⟩ := List.mem_map.mp last
    exact nofun
  all_goals exact nofun

theorem delta_names (source : Source) : ((deltaFields source).map Prod.fst).Nodup := by
  have names : (deltaFields source).map Prod.fst = deltaLinks.map Prod.fst := by
    simp [deltaFields]
  rw [names]
  decide

theorem delta_filled (source : Source) : ∀ field ∈ deltaFields source, field.2 ≠ .nil := by
  intro field member
  obtain ⟨link, _, rfl⟩ := List.mem_map.mp member
  exact nofun

/-- The place of the list of the block hashes of a part. -/
def blockTable : Part → Fin 11
  | .source => 7
  | .canonical => 8
  | .reverseCanonical => 9
  | .interReversed => 10

theorem blockTable_behind (part : Part) : 6 < blockTable part := by
  cases part <;> decide

def blockList (source : Source) (part : Part) : Table 11 :=
  listOf (mBlockHashes (part.bytes source.data) source.blockSize) (part_few source part)

def lengthValue (source : Source) (part : Part) : LuaValue 11 :=
  .number (.integer (part.bytes source.data).length
    (by have := part_length source.data part; have := source.small; omega))

def hashValue (source : Source) (part : Part) : LuaValue 11 :=
  .string (fnvText (part.bytes source.data))

def rootValue (source : Source) (part : Part) : LuaValue 11 :=
  .string (fnvText (tableConcat (mBlockHashes (part.bytes source.data) source.blockSize) (text "|")))

def blocksValue (part : Part) : LuaValue 11 := .table (blockTable part)

/-- The tables that `manifest_from_data` builds, the first of them the one it returns; `path`
is what `M.manifest` adds. Without `emitBlocks` nothing refers to the last five. -/
def manifestHeap (source : Source) (emitBlocks : Bool) (path : Option (List UInt8)) : Heap 11
  | 0 => record (manifestFields source emitBlocks path) (manifest_names source emitBlocks path)
      (manifest_filled source emitBlocks path)
  | 1 => listOf linkModes modes_few
  | 2 => perPart (lengthValue source) fun _ => trivial
  | 3 => perPart (hashValue source) fun _ => trivial
  | 4 => record (deltaFields source) (delta_names source) (delta_filled source)
  | 5 => perPart (rootValue source) fun _ => trivial
  | 6 => perPart blocksValue fun _ => trivial
  | 7 => blockList source .source
  | 8 => blockList source .canonical
  | 9 => blockList source .reverseCanonical
  | 10 => blockList source .interReversed

theorem block_table_list (source : Source) (emitBlocks : Bool) (path : Option (List UInt8))
    (part : Part) :
    manifestHeap source emitBlocks path (blockTable part) = blockList source part := by
  cases part <;> rfl

end Tables

section Shape

variable (source : Source) (emitBlocks : Bool) (path : Option (List UInt8))

theorem perPart_values (value : Part → LuaValue 11) (plain : ∀ part, (value part).Plain) :
    (perPart value plain).values = Part.all.map value := by
  rw [perPart, record_values, List.map_map]
  rfl

theorem perPart_plain (value : Part → LuaValue 11) (plain : ∀ part, (value part).Plain) :
    (perPart value plain).Plain := by
  apply record_plain
  intro field member
  obtain ⟨part, _, rfl⟩ := List.mem_map.mp member
  exact plain part

theorem fields_plain : ∀ field ∈ manifestFields source emitBlocks path, field.2.Plain := by
  intro field member
  simp only [manifestFields, List.mem_append, List.mem_cons, List.not_mem_nil, or_false] at member
  rcases member with ((rfl | rfl | rfl | rfl | rfl | rfl | rfl | rfl) | blocks) | last
  case inl.inr =>
    split at blocks
    · obtain rfl := List.mem_singleton.mp blocks
      trivial
    · cases blocks
  case inr =>
    obtain ⟨_, _, rfl⟩ := List.mem_map.mp last
    trivial
  all_goals trivial

theorem manifest_plain (t : Fin 11) : (manifestHeap source emitBlocks path t).Plain := by
  match t with
  | 0 =>
      exact record_plain _ (manifest_names source emitBlocks path)
        (manifest_filled source emitBlocks path) (fields_plain source emitBlocks path)
  | 1 => exact listOf_plain _ modes_few
  | 2 => exact perPart_plain (lengthValue source) fun _ => trivial
  | 3 => exact perPart_plain (hashValue source) fun _ => trivial
  | 4 =>
      apply record_plain _ (delta_names source) (delta_filled source)
      intro field member
      obtain ⟨link, _, rfl⟩ := List.mem_map.mp member
      trivial
  | 5 => exact perPart_plain (rootValue source) fun _ => trivial
  | 6 => exact perPart_plain blocksValue fun _ => trivial
  | 7 => exact listOf_plain _ (part_few source .source)
  | 8 => exact listOf_plain _ (part_few source .canonical)
  | 9 => exact listOf_plain _ (part_few source .reverseCanonical)
  | 10 => exact listOf_plain _ (part_few source .interReversed)

theorem table_in_perPart (value : Part → LuaValue 11) (plain : ∀ part, (value part).Plain)
    (u : Fin 11) (inside : .table u ∈ (perPart value plain).values) :
    ∃ part, value part = .table u := by
  rw [perPart_values] at inside
  obtain ⟨part, _, same⟩ := List.mem_map.mp inside
  exact ⟨part, same⟩

theorem table_in_listOf (items : List (List UInt8)) (few : items.length < 10 ^ 14) (u : Fin 11) :
    .table u ∉ (listOf items few).values := by
  rw [listOf_values]
  intro inside
  obtain ⟨item, _, same⟩ := List.mem_map.mp inside
  cases same

theorem table_in_fields (u : Fin 11)
    (inside : .table u ∈ (manifestFields source emitBlocks path).map Prod.snd) : 0 < u := by
  obtain ⟨field, member, same⟩ := List.mem_map.mp inside
  simp only [manifestFields, List.mem_append, List.mem_cons, List.not_mem_nil, or_false] at member
  rcases member with ((rfl | rfl | rfl | rfl | rfl | rfl | rfl | rfl) | blocks) | last
  case inl.inr =>
    split at blocks
    · obtain rfl := List.mem_singleton.mp blocks
      cases same
      decide
    · cases blocks
  case inr =>
    obtain ⟨_, _, rfl⟩ := List.mem_map.mp last
    cases same
  all_goals
    cases same
    try decide

/-- A table refers to later ones only. -/
theorem manifest_rises (t u : Fin 11)
    (contains : Contains (manifestHeap source emitBlocks path) t u) : t < u := by
  match t with
  | 0 =>
      rw [Contains, manifestHeap, record_values] at contains
      exact table_in_fields source emitBlocks path u contains
  | 1 => exact absurd contains (table_in_listOf _ modes_few u)
  | 2 =>
      obtain ⟨part, same⟩ := table_in_perPart (lengthValue source) (fun _ => trivial) u contains
      cases same
  | 3 =>
      obtain ⟨part, same⟩ := table_in_perPart (hashValue source) (fun _ => trivial) u contains
      cases same
  | 4 =>
      rw [Contains, manifestHeap, record_values] at contains
      obtain ⟨field, member, same⟩ := List.mem_map.mp contains
      obtain ⟨link, _, rfl⟩ := List.mem_map.mp member
      cases same
  | 5 =>
      obtain ⟨part, same⟩ := table_in_perPart (rootValue source) (fun _ => trivial) u contains
      cases same
  | 6 =>
      obtain ⟨part, same⟩ := table_in_perPart blocksValue (fun _ => trivial) u contains
      obtain rfl := LuaValue.table.inj same
      exact blockTable_behind part
  | 7 => exact absurd contains (table_in_listOf _ (part_few source .source) u)
  | 8 => exact absurd contains (table_in_listOf _ (part_few source .canonical) u)
  | 9 => exact absurd contains (table_in_listOf _ (part_few source .reverseCanonical) u)
  | 10 => exact absurd contains (table_in_listOf _ (part_few source .interReversed) u)

end Shape

section ReadBack

variable (source : Source) (emitBlocks : Bool) (path : Option (List UInt8))

/-- The blocks of a part, each by its hash. -/
def blockNames (part : Part) : List (List UInt8) :=
  (blocksOf (part.bytes source.data) source.blockSize).map fun b => hashText (fnv b)

/-- What a reader finds in the text of a manifest: these members and no others, each number,
hash and list where its name says it is. -/
structure ManifestSays (value : Value) : Prop where
  members : ∃ members, value = .object members ∧
    (members.map Prod.fst).Perm ((manifestFields source emitBlocks path).map Prod.fst)
  schema : At [text "schema"] value (.string (text "tgdk-delta-link/v1"))
  blockSize : ∃ digits, At [text "block_size"] value (.number digits) ∧
    signedValue digits = source.blockSize
  modes : At [text "link_modes"] value (.array (linkModes.map .string))
  lengths : ∀ part : Part, ∃ digits, At [text "lengths", part.name] value (.number digits) ∧
    signedValue digits = source.data.length
  hashes : ∀ part : Part, At [text "hashes", part.name] value
    (.string (hashText (fnv (part.bytes source.data))))
  deltas : ∀ link ∈ deltaLinks, At [text "delta_link", link.1] value
    (.string (hashText (fnv (mXorDelta source.data (link.2.bytes source.data)))))
  roots : ∀ part : Part, At [text "block_hash_roots", part.name] value
    (.string (hashText (fnv (tableConcat (blockNames source part) (text "|")))))
  blocks : emitBlocks = true → ∀ part : Part, At [text "block_hashes", part.name] value
    (.array ((blockNames source part).map .string))
  path : ∀ given ∈ path, At [text "path"] value (.string given)

variable (heap : Heap 11) (reordered : Reordered (manifestHeap source emitBlocks path) heap)

include reordered

theorem manifest_acyclic : ¬Cyclic heap (.table 0) := by
  rw [cyclic_reordered _ _ reordered]
  exact acyclic_of_rises _ (manifest_rises source emitBlocks path) _

theorem manifest_encodable : Encodable heap (.table 0) := by
  refine ⟨trivial, fun _ _ t _ => ?_⟩
  exact plain_reordered _ _ (reordered t) (manifest_plain source emitBlocks path t)

variable (value : Value) (recovers : Recovers heap (.table 0) value)

include recovers

theorem field_at (name : List UInt8) (v : LuaValue 11)
    (field : (name, v) ∈ manifestFields source emitBlocks path) :
    ∃ inner, At [name] value inner ∧ Recovers heap v inner :=
  recovers_record heap 0 value recovers _ (manifest_names source emitBlocks path)
    (manifest_filled source emitBlocks path) (reordered 0) name v field

/-- Through a field that is a record of the parts, to the value of one of them. -/
theorem part_at (name : List UInt8) (place : Fin 11)
    (field : (name, .table place) ∈ manifestFields source emitBlocks path)
    (v : Part → LuaValue 11) (plain : ∀ part, (v part).Plain)
    (kept : manifestHeap source emitBlocks path place = perPart v plain) (part : Part) :
    ∃ inner, At [name, part.name] value inner ∧ Recovers heap (v part) inner := by
  obtain ⟨middle, upper, record⟩ :=
    field_at source emitBlocks path heap reordered value recovers name _ field
  have same := reordered place
  rw [kept] at same
  have listed : part ∈ Part.all := by
    cases part <;> decide
  obtain ⟨inner, lower, recovered⟩ := recovers_record heap place middle record _ _ _ same part.name
    (v part) (List.mem_map.mpr ⟨part, listed, rfl⟩)
  exact ⟨inner, at_append [name] [part.name] value middle inner upper lower, recovered⟩

theorem manifest_says : ManifestSays source emitBlocks path value where
  members := recovers_names heap 0 value recovers _ (manifest_names source emitBlocks path)
    (manifest_filled source emitBlocks path) (reordered 0) (by simp [manifestFields])
  schema := by
    obtain ⟨inner, there, string⟩ := field_at source emitBlocks path heap reordered value recovers
      (text "schema") (.string (text "tgdk-delta-link/v1")) (by simp [manifestFields])
    cases string
    exact there
  blockSize := by
    obtain ⟨inner, there, number⟩ := field_at source emitBlocks path heap reordered value recovers
      (text "block_size") (sizeValue source) (by simp [manifestFields])
    cases number with
    | number _ _ digits same => exact ⟨digits, there, same⟩
  modes := by
    obtain ⟨inner, there, list⟩ := field_at source emitBlocks path heap reordered value recovers
      (text "link_modes") (.table 1) (by simp [manifestFields])
    obtain rfl := recovers_list heap 1 inner list linkModes modes_few (reordered 1)
    exact there
  lengths := by
    intro part
    obtain ⟨inner, there, number⟩ := part_at source emitBlocks path heap reordered value recovers
      (text "lengths") 2 (by simp [manifestFields]) (lengthValue source) (fun _ => trivial) rfl part
    cases number with
    | number _ _ digits same =>
        rw [part_length] at same
        exact ⟨digits, there, same⟩
  hashes := by
    intro part
    obtain ⟨inner, there, string⟩ := part_at source emitBlocks path heap reordered value recovers
      (text "hashes") 3 (by simp [manifestFields]) (hashValue source) (fun _ => trivial) rfl part
    cases string
    rw [← fnvText_eq]
    exact there
  deltas := by
    intro link listed
    obtain ⟨middle, upper, fields⟩ := field_at source emitBlocks path heap reordered value recovers
      (text "delta_link") (.table 4) (by simp [manifestFields])
    obtain ⟨inner, lower, string⟩ := recovers_record heap 4 middle fields _ (delta_names source)
      (delta_filled source) (reordered 4) link.1
      (.string (fnvText (mXorDelta source.data (link.2.bytes source.data))))
      (List.mem_map.mpr ⟨link, listed, rfl⟩)
    cases string
    rw [← fnvText_eq]
    exact at_append [text "delta_link"] [link.1] value middle _ upper lower
  roots := by
    intro part
    obtain ⟨inner, there, string⟩ := part_at source emitBlocks path heap reordered value recovers
      (text "block_hash_roots") 5 (by simp [manifestFields]) (rootValue source) (fun _ => trivial)
      rfl part
    cases string
    rw [← fnvText_eq, blockNames, ← part_blocks]
    exact there
  blocks := by
    rintro rfl part
    obtain ⟨inner, there, list⟩ := part_at source true path heap reordered value recovers
      (text "block_hashes") 6 (by simp [manifestFields]) blocksValue (fun _ => trivial) rfl part
    have same := reordered (blockTable part)
    rw [block_table_list] at same
    obtain rfl := recovers_list heap (blockTable part) inner list _ (part_few source part) same
    rw [blockNames, ← part_blocks]
    exact there
  path := by
    rintro given rfl
    obtain ⟨inner, there, string⟩ := field_at source emitBlocks (some given) heap reordered value
      recovers (text "path") (.string given) (by simp [manifestFields])
    cases string
    exact there

end ReadBack

/-- Whatever the order of `pairs`, a parser finds in the text of a manifest what the manifest
says of the file, and with `emitBlocks` the very hashes that the roots are the hashes of. -/
theorem manifest_reads_back (source : Source) (emitBlocks : Bool) (path : Option (List UInt8))
    (heap : Heap 11) (reordered : Reordered (manifestHeap source emitBlocks path) heap)
    (fuel : Nat) (enough : 11 < fuel) :
    ∃ encoded value, mJson heap fuel (.table 0) = .ok encoded ∧ ParsesTo encoded value ∧
      ManifestSays source emitBlocks path value := by
  have acyclic := manifest_acyclic source emitBlocks path heap reordered
  have free : ¬Blocked heap [] (.table 0) := fun blocked =>
    acyclic ((cyclic_iff_blocked heap _).mpr blocked)
  obtain ⟨written, same, recovers⟩ := writes_printed heap fuel [] (.table 0) List.nodup_nil
    (by simpa using enough) (manifest_encodable source emitBlocks path heap reordered) free
  refine ⟨written.text, written.value, ?_, parsesTo_written written,
    manifest_says source emitBlocks path heap reordered written.value recovers⟩
  rw [same]
  exact (mJson_outcome heap fuel _ enough).2 acyclic

def letters : Source where
  data := text "abc"
  blockSize := 2
  positive := by decide
  sized := by decide
  small := by decide

theorem letters_manifest :
    ∃ encoded value,
      mJson (manifestHeap letters true (some (text "abc.txt"))) 12 (.table 0) = .ok encoded ∧
        ParsesTo encoded value ∧ ManifestSays letters true (some (text "abc.txt")) value :=
  manifest_reads_back letters true (some (text "abc.txt")) _ (fun _ => .refl _) 12 (by decide)

end RyzenBuild.Delta
