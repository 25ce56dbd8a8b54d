import EspIris.Gateway.Download

/-! `DeviceFiles.list_directory` of `iris_gateway/files.py`, for any way in which requests are answered: a page is what
is left of the directory behind a cursor. -/

namespace EspIris.Gateway.Listing
open Bytes Device.Files Upload

inductive ListError
  | valueError
  | file (error : FileError)
  | unicodeDecodeError

/-- How a FILE request is answered, which is `_request`. -/
abbrev Requests (World : Type) := FileRequest → World → Except FileError FileFrame × World

def decodeUtf8 (bytes : List UInt8) : Option (List Char) := bytes.toByteArray.utf8Decode?.map Array.toList

theorem decodeUtf8_encoded (text : List Char) : decodeUtf8 (text.flatMap String.utf8EncodeChar) = some text := by
  unfold decodeUtf8
  have decodes := List.utf8Decode?_utf8Encode (l := text)
  unfold List.utf8Encode at decodes
  rw [decodes]
  rfl

structure Entry where
  name : List Char
  metadata : FileMetadata

/-- `_metadata` of a list entry, whose second byte is not reserved. -/
def listMetadata (payload : List UInt8) : Except FileError FileMetadata :=
  let kind := byteAt payload 4
  if payload.length < 32 ∨ field payload 6 2 ≠ 0 ∨ (kind ≠ 1 ∧ kind ≠ 2) then .error .protocol
  else .ok { kind, size := field payload 8 8, mtime := field payload 16 8, etag := field payload 24 8 }

def listOpened (frame : FileFrame) : Except FileError UInt32 :=
  match checked frame FileType.listOpened 8 with
  | .error error => .error error
  | .ok payload =>
    if payload.length ≠ 8 then .error .protocol
    else
      let streamId := UInt32.ofNat (field payload 4 4)
      if streamId = 0 ∨ frame.streamId ≠ streamId then .error .protocol else .ok streamId

structure ListData where
  ended : Bool
  entry : Option Entry

def listData (frame : FileFrame) (streamId : UInt32) : Except ListError ListData :=
  match checked frame FileType.listData 4 with
  | .error error => .error (.file error)
  | .ok page =>
    if frame.streamId ≠ streamId ∨ (byteAt page 3 ≠ 0 ∧ byteAt page 3 ≠ 1) then .error (.file .protocol)
    else
      let ended := decide (byteAt page 2 &&& 1 ≠ 0)
      if byteAt page 3 = 1 then
        match listMetadata page with
        | .error error => .error (.file error)
        | .ok metadata =>
          if page.length ≠ 32 + (byteAt page 5).toNat then .error (.file .protocol)
          else match decodeUtf8 (page.drop 32) with
            | none => .error .unicodeDecodeError
            | some name => .ok ⟨ended, some ⟨name, metadata⟩⟩
      else if page.length ≠ 4 then .error (.file .protocol)
      else .ok ⟨ended, none⟩

/-- The keys of what `list_directory` returns, but for those that say what was asked. -/
structure ListPage where
  entries : List Entry
  cursor : Int
  nextCursor : Option Int

def takeEntry (cursor : Int) (entry : Option Entry) (entries : List Entry) (seen : Nat) : List Entry × Nat :=
  match entry with
  | some entry => (if cursor ≤ seen then entries ++ [entry] else entries, seen + 1)
  | none => (entries, seen)

section session
variable {World : Type} (request : Requests World)

/-- The loop of `list_directory` for a number of turns; it may take more. -/
def listLoop (streamId : UInt32) (cursor limit : Int) : Nat → List Entry → Nat → World →
    Option (Except ListError (List Entry)) × World
  | 0, _, _, world => (none, world)
  | turns + 1, entries, seen, world =>
    if entries.length ≤ limit then
      match request ⟨FileType.listNext, streamId, []⟩ world with
      | (.error error, world) => (some (.error (.file error)), world)
      | (.ok frame, world) =>
        match listData frame streamId with
        | .error error => (some (.error error), world)
        | .ok page =>
          let taken := takeEntry cursor page.entry entries seen
          if page.ended = true ∨ limit < taken.1.length then (some (.ok taken.1), world)
          else listLoop streamId cursor limit turns taken.1 taken.2 world
    else (some (.ok entries), world)

def listPage (cursor limit : Int) (entries : List Entry) : ListPage :=
  let hasMore := decide (limit < entries.length)
  let entries := if hasMore then entries.dropLast else entries
  { entries, cursor, nextCursor := if hasMore then some (cursor + entries.length) else none }

/-- `list_directory`; nothing is returned while the loop goes on. -/
def listDirectory (turns : Nat) (volume : List UInt8) (path : Path) (cursor limit : Int) (world : World) :
    Option (Except ListError ListPage) × World :=
  if cursor < 0 ∨ ¬ (1 ≤ limit ∧ limit ≤ 200) then (some (.error .valueError), world)
  else match pathPayload volume path with
    | none => (some (.error .valueError), world)
    | some payload =>
      match request ⟨FileType.listOpen, 0, payload⟩ world with
      | (.error error, world) => (some (.error (.file error)), world)
      | (.ok opened, world) =>
        match listOpened opened with
        | .error error => (some (.error (.file error)), world)
        | .ok streamId =>
          match listLoop request streamId cursor limit turns [] 0 world with
          | (none, world) => (none, world)
          | (some outcome, world) =>
            -- Whether the CLOSE succeeds does not matter.
            let world := (request ⟨FileType.close, streamId, []⟩ world).2
            match outcome with
            | .error error => (some (.error error), world)
            | .ok entries => (some (.ok (listPage cursor limit entries)), world)

/-- Calls behind one another, each with the cursor that the one before returned and a limit of its own, until there is
no cursor. -/
def listPages (turns : Nat) (volume : List UInt8) (path : Path) (limit : Nat → Int) : Nat → Int → World →
    Option (List ListPage) × World
  | 0, _, world => (none, world)
  | calls + 1, cursor, world =>
    match listDirectory request turns volume path cursor (limit 0) world with
    | (some (.ok page), world) =>
      match page.nextCursor with
      | none => (some [page], world)
      | some next =>
        let later := listPages turns volume path (fun index => limit (index + 1)) calls next world
        (later.1.map (page :: ·), later.2)
    | (_, world) => (none, world)

/-- A directory that does not change, behind requests: it can be opened when nothing else is, and then gives its
entries one by one, and at last its end. -/
structure Serves (payload : List UInt8) (entries : List Entry) (Idle : World → Prop)
    (At : UInt32 → List Entry → World → Prop) : Prop where
  opens : ∀ world, Idle world → ∃ frame streamId after,
    request ⟨FileType.listOpen, 0, payload⟩ world = (.ok frame, after) ∧ listOpened frame = .ok streamId ∧
      At streamId entries after
  gives : ∀ streamId entry rest world, At streamId (entry :: rest) world → ∃ frame after,
    request ⟨FileType.listNext, streamId, []⟩ world = (.ok frame, after) ∧
      listData frame streamId = .ok ⟨false, some entry⟩ ∧ At streamId rest after
  ends : ∀ streamId world, At streamId [] world → ∃ frame after,
    request ⟨FileType.listNext, streamId, []⟩ world = (.ok frame, after) ∧ listData frame streamId = .ok ⟨true, none⟩ ∧
      At streamId [] after
  closes : ∀ streamId rest world, At streamId rest world → Idle (request ⟨FileType.close, streamId, []⟩ world).2

variable {request} {payload : List UInt8} {entries : List Entry} {Idle : World → Prop}
variable {At : UInt32 → List Entry → World → Prop}

/-- From where the directory stands the loop takes what is left behind the cursor, and one entry more than a page. -/
theorem listLoop_takes (serves : Serves request payload entries Idle At) {streamId : UInt32} {cursor limit : Nat}
    {rest taken : List Entry} {seen turns : Nat} {world : World} (stands : At streamId rest world)
    (enough : rest.length < turns) (started : taken ≠ [] → cursor ≤ seen) (room : taken.length ≤ limit) :
    ∃ left after, listLoop request streamId cursor limit turns taken seen world =
        (some (.ok (taken ++ (rest.drop (cursor - seen)).take (limit + 1 - taken.length))), after) ∧
      At streamId left after := by
  induction rest generalizing taken seen turns world with
  | nil =>
    obtain ⟨turns, rfl⟩ := Nat.exists_eq_succ_of_ne_zero (Nat.ne_of_gt enough)
    obtain ⟨frame, after, asked, answered, stays⟩ := serves.ends streamId world stands
    refine ⟨[], after, ?_, stays⟩
    rw [listLoop, if_pos (Int.ofNat_le.mpr room), asked]
    dsimp only
    rw [answered]
    dsimp only
    rw [if_pos (.inl rfl), List.drop_nil, List.take_nil, List.append_nil]
    rfl
  | cons entry rest ih =>
    obtain ⟨turns, rfl⟩ := Nat.exists_eq_succ_of_ne_zero (Nat.ne_of_gt (Nat.zero_lt_of_lt enough))
    obtain ⟨frame, after, asked, answered, moves⟩ := serves.gives streamId entry rest world stands
    have fewer : rest.length < turns := Nat.lt_of_succ_lt_succ enough
    rw [listLoop, if_pos (Int.ofNat_le.mpr room), asked]
    dsimp only
    rw [answered]
    dsimp only
    by_cases past : cursor ≤ seen
    · have longer : (taken ++ [entry]).length = taken.length + 1 := List.length_append
      have before : limit + 1 - taken.length = limit - taken.length + 1 := by omega
      have taking : takeEntry cursor (some entry) taken seen = (taken ++ [entry], seen + 1) := by
        unfold takeEntry
        dsimp only
        rw [if_pos (Int.ofNat_le.mpr past)]
      rw [taking, Nat.sub_eq_zero_of_le past, List.drop_zero, before, List.take_succ_cons]
      by_cases full : taken.length = limit
      · -- The entry is the one too many.
        refine ⟨rest, after, ?_, moves⟩
        rw [if_pos (.inr (by rw [longer]; omega)), full, Nat.sub_self, List.take_zero]
      · have later : cursor ≤ seen + 1 := past.trans (Nat.le_succ seen)
        obtain ⟨left, last, takes, remains⟩ :=
          @ih (taken ++ [entry]) (seen + 1) turns after moves fewer (fun _ => later) (by rw [longer]; omega)
        refine ⟨left, last, ?_, remains⟩
        have same : limit + 1 - (taken.length + 1) = limit - taken.length := by omega
        rw [if_neg (not_or.mpr ⟨Bool.false_ne_true, by rw [longer]; omega⟩), takes, Nat.sub_eq_zero_of_le later,
          List.drop_zero, longer, same, List.append_assoc]
        rfl
    · have nothing : taken = [] := by
        by_contra some
        exact past (started some)
      have skipped : cursor - seen = cursor - (seen + 1) + 1 := by omega
      obtain ⟨left, last, takes, remains⟩ := ih moves fewer (fun some => absurd nothing some) room
      refine ⟨left, last, ?_, remains⟩
      have taking : takeEntry cursor (some entry) taken seen = (taken, seen + 1) := by
        unfold takeEntry
        dsimp only
        rw [if_neg (by omega)]
      rw [taking, if_neg (not_or.mpr ⟨Bool.false_ne_true, by dsimp only; omega⟩), takes, skipped, List.drop_succ_cons]

/-- The window of one entry more than a page tells whether more follows. -/
theorem listPage_window (entries : List Entry) (cursor limit : Nat) :
    listPage cursor limit ((entries.drop cursor).take (limit + 1)) =
      ⟨(entries.drop cursor).take limit, cursor,
        if cursor + limit < entries.length then some (cursor + limit : Nat) else none⟩ := by
  have length (size : Nat) : ((entries.drop cursor).take size).length = min size (entries.length - cursor) := by
    rw [List.length_take, List.length_drop]
  unfold listPage
  dsimp only
  by_cases more : cursor + limit < entries.length
  · have long : (limit : Int) < ((entries.drop cursor).take (limit + 1)).length := by
      rw [length]
      omega
    have popped : ((entries.drop cursor).take (limit + 1)).dropLast = (entries.drop cursor).take limit := by
      rw [List.dropLast_eq_take, length, List.take_take]
      congr 1
      omega
    have next : (cursor : Int) + ((entries.drop cursor).take limit).length = (cursor + limit : Nat) := by
      rw [length]
      omega
    rw [decide_eq_true long, if_pos rfl, if_pos rfl, popped, next, if_pos more]
  · have short : ¬ (limit : Int) < ((entries.drop cursor).take (limit + 1)).length := by
      rw [length]
      omega
    have whole : (entries.drop cursor).take (limit + 1) = (entries.drop cursor).take limit := by
      rw [List.take_eq_take_iff, List.length_drop]
      omega
    rw [decide_eq_false short, if_neg Bool.false_ne_true, if_neg Bool.false_ne_true, whole, if_neg more]

/-- A call returns the page behind the cursor, and a cursor where more follows. -/
theorem listDirectory_returns (serves : Serves request payload entries Idle At) {volume : List UInt8} {path : Path}
    (isPayload : pathPayload volume path = some payload) {turns : Nat} (cursor : Nat) {limit : Nat} (least : 1 ≤ limit)
    (most : limit ≤ 200) (enough : entries.length < turns) {world : World} (idle : Idle world) :
    ∃ after, listDirectory request turns volume path cursor limit world =
        (some (.ok ⟨(entries.drop cursor).take limit, cursor,
          if cursor + limit < entries.length then some (cursor + limit : Nat) else none⟩), after) ∧ Idle after := by
  obtain ⟨frame, streamId, opened, asked, answered, stands⟩ := serves.opens world idle
  obtain ⟨left, last, takes, remains⟩ := listLoop_takes serves stands enough
    (fun some => absurd rfl some) (Nat.zero_le limit)
  rw [List.nil_append, Nat.sub_zero, List.length_nil, Nat.sub_zero] at takes
  refine ⟨_, ?_, serves.closes streamId left last remains⟩
  unfold listDirectory
  rw [if_neg (by omega), isPayload]
  dsimp only
  rw [asked]
  dsimp only
  rw [answered]
  dsimp only
  rw [takes]
  dsimp only
  rw [listPage_window]

structure Chained (entries : List Entry) (cursor : Nat) (pages : List ListPage) : Prop where
  first : pages.head?.map ListPage.cursor = some (cursor : Int)
  whole : pages.flatMap ListPage.entries = entries.drop cursor
  grows : pages.IsChain fun page next => page.nextCursor = some next.cursor ∧ page.cursor < next.cursor
  done : pages.getLast?.map ListPage.nextCursor = some none

theorem listPages_return (serves : Serves request payload entries Idle At) {volume : List UInt8} {path : Path}
    (isPayload : pathPayload volume path = some payload) {turns : Nat} (enough : entries.length < turns)
    {limit : Nat → Int} (inRange : ∀ index, 1 ≤ limit index ∧ limit index ≤ 200) {cursor calls : Nat}
    (many : entries.length - cursor < calls) {world : World} (idle : Idle world) :
    ∃ pages after, listPages request turns volume path limit calls cursor world = (some pages, after) ∧
      Chained entries cursor pages := by
  induction calls generalizing limit cursor world with
  | zero => exact absurd many (Nat.not_lt_zero _)
  | succ calls ih =>
    obtain ⟨least, most⟩ := inRange 0
    obtain ⟨size, isSize⟩ := Int.eq_ofNat_of_zero_le (Int.le_trans (by decide) least)
    rw [isSize] at least most
    obtain ⟨between, returned, idles⟩ := listDirectory_returns serves isPayload cursor (Int.ofNat_le.mp least)
      (Int.ofNat_le.mp most) enough idle
    rw [listPages, isSize, returned]
    dsimp only
    by_cases more : cursor + size < entries.length
    · rw [if_pos more]
      dsimp only
      have fewer : entries.length - (cursor + size) < calls := by omega
      obtain ⟨pages, after, later, chained⟩ := ih (fun index => inRange (index + 1)) fewer idles
      rw [later]
      refine ⟨_, after, rfl, rfl, ?_, ?_, ?_⟩
      · rw [List.flatMap_cons, chained.whole, ← List.drop_drop]
        exact List.take_append_drop size _
      · cases pages with
        | nil => exact absurd chained.first (by simp)
        | cons next pages =>
          have first : next.cursor = (cursor + size : Nat) := Option.some.inj chained.first
          refine List.IsChain.cons_cons ⟨?_, ?_⟩ chained.grows
          · rw [first]
          · rw [first]
            dsimp only
            omega
      · cases pages with
        | nil => exact absurd chained.first (by simp)
        | cons next pages =>
          rw [List.getLast?_cons_cons]
          exact chained.done
    · rw [if_neg more]
      refine ⟨_, between, rfl, rfl, ?_, List.IsChain.singleton _, rfl⟩
      rw [List.flatMap_cons, List.flatMap_nil, List.append_nil]
      exact List.take_of_length_le (by rw [List.length_drop]; omega)

end session

end EspIris.Gateway.Listing
