import EspIris.Device.Listing
import EspIris.Gateway.Listing
import EspIris.Link.Upload

/-! A directory of the device, listed by the gateway page by page: the file task opens the directory anew for each page,
and the pages together are what it reports of the directory. -/

namespace EspIris.Link.Listing
open Bytes Codec.Device Device.Files Gateway.Upload Gateway.Download Gateway.Listing

/-- A directory that `readdir` enumerates in one order whenever it is opened, and that nobody changes. -/
structure ListSetup where
  config : FilesConfig
  sha256 : List UInt8 → List UInt8
  sessionId : UInt32
  volume : List UInt8
  path : Path
  tree : Tree
  /-- What the calls are answered with while a request resolves the path. -/
  answers : Answers
  /-- The entries, with what `file_stat` answers about each. -/
  entries : List (Path × StatAnswer)
  /-- What `next_stream_id` gives at each request. -/
  streamId : Nat → UInt32
  streamId_ne : ∀ serial, streamId serial ≠ 0
  payload : List UInt8
  isPayload : pathPayload volume path = some payload
  directory : Path
  found : listPath config tree (workFor sessionId 0 ⟨FileType.listOpen, 0, payload⟩) answers = .ok directory

/-- The file task, what `readdir` still gives of the directory that is open, and the number of the next request. -/
structure ListWorld where
  task : FileTask
  readdir : List (Path × StatAnswer)
  serial : Nat

def ListSetup.answersAt (setup : ListSetup) (world : ListWorld) : Answers :=
  { setup.answers with
    entries := world.readdir
    streamId := setup.streamId world.serial
    streamId_ne := setup.streamId_ne world.serial }

/-- What `readdir` still gives after a request: `opendir` starts anew, and a request that is refused reads nothing. -/
def ListSetup.readdirAfter (setup : ListSetup) (world : ListWorld) (type : UInt8) (completion : FileCompletion) :
    List (Path × StatAnswer) :=
  if completion.status ≠ FileStatus.ok.code then world.readdir
  else if type = FileType.listOpen then setup.entries
  else if type = FileType.listNext then readdirRest world.task.tree world.task.handle.directoryPath world.readdir
  else world.readdir

/-- `_request` over the link: the file task handles the request, and its completion comes back. -/
def ListSetup.exchange (setup : ListSetup) : Requests ListWorld := fun request world =>
  let (task, completion) := processWork setup.config setup.sha256 world.task
    (workFor setup.sessionId world.serial request) (setup.answersAt world)
  (.ok (frameOf completion), ⟨task, setup.readdirAfter world request.type completion, world.serial + 1⟩)

def entryOf (reported : Path × Metadata) : Entry where
  name := (decodeUtf8 reported.1).getD []
  metadata :=
    { kind := fileKind reported.2
      size := (UInt64.ofNat reported.2.size).toNat
      mtime := (UInt64.ofNat reported.2.mtime.toNat).toNat
      etag := (weakEtag reported.2).toNat }

def ListSetup.listable (setup : ListSetup) : List Entry :=
  (Device.Files.listable setup.tree setup.directory setup.entries).map entryOf

section frames
variable {frame : FileFrame} {streamId : UInt32}

theorem listData_entry {name : Path} {metadata : Metadata} (typed : frame.type = FileType.listData)
    (own : frame.streamId = streamId) (payload : frame.payload = entryPayload name metadata)
    (short : name.length ≤ pathMax) (printable : Printable name)
    (known : fileKind metadata = 1 ∨ fileKind metadata = 2) :
    listData frame streamId = .ok ⟨false, some (entryOf (name, metadata))⟩ := by
  have layout := payload.trans (entryPayload_eq name metadata)
  have size : frame.payload.length = 32 + name.length := by
    rw [layout]
    simp only [List.length_append, List.length_cons, List.length_nil, littleEndian_length]
    omega
  have isOk : field frame.payload 0 2 = 0 := by
    rw [layout]
    rfl
  have flags : byteAt frame.payload 2 = 0 := by
    rw [layout]
    rfl
  have counted : byteAt frame.payload 3 = 1 := by
    rw [layout]
    rfl
  have isKind : byteAt frame.payload 4 = fileKind metadata := by
    rw [layout]
    rfl
  have isLength : (byteAt frame.payload 5).toNat = name.length := by
    rw [layout]
    exact UInt8.toNat_ofNat_of_lt' (Nat.lt_succ_of_le short)
  have reserved : field frame.payload 6 2 = 0 := by
    rw [layout]
    rfl
  have isSize : field frame.payload 8 8 = (UInt64.ofNat metadata.size).toNat := by
    rw [layout]
    exact field_behind rfl (UInt64.toNat_lt _)
  have isTime : field frame.payload 16 8 = (UInt64.ofNat metadata.mtime.toNat).toNat := by
    rw [layout, ← List.append_assoc]
    exact field_behind (by rw [List.length_append, littleEndian_length]; rfl) (UInt64.toNat_lt _)
  have isEtag : field frame.payload 24 8 = (weakEtag metadata).toNat := by
    rw [layout, ← List.append_assoc, ← List.append_assoc]
    exact field_behind (by rw [List.length_append, List.length_append, littleEndian_length, littleEndian_length]; rfl)
      (UInt64.toNat_lt _)
  have isName : frame.payload.drop 32 = name := by
    rw [layout, ← List.append_assoc, ← List.append_assoc, ← List.append_assoc]
    refine List.drop_left' ?_
    rw [List.length_append, List.length_append, List.length_append, littleEndian_length, littleEndian_length,
      littleEndian_length]
    rfl
  obtain ⟨⟨text, encoded⟩, -⟩ := printable
  have described : listMetadata frame.payload = .ok (entryOf (name, metadata)).metadata := by
    have fine : ¬ (frame.payload.length < 32 ∨ field frame.payload 6 2 ≠ 0 ∨
        (byteAt frame.payload 4 ≠ 1 ∧ byteAt frame.payload 4 ≠ 2)) := by
      rw [size, reserved, isKind]
      rintro (small | other | ⟨notFile, notDirectory⟩)
      · omega
      · exact other rfl
      · exact known.elim notFile notDirectory
    unfold listMetadata entryOf
    dsimp only
    rw [if_neg fine, isKind, isSize, isTime, isEtag]
  unfold listData
  rw [checked_takes typed isOk (by omega) (by omega)]
  dsimp only
  rw [if_neg (not_or.mpr ⟨not_not.mpr own, by rw [counted]; decide⟩), if_pos counted, described]
  dsimp only
  rw [if_neg (by rw [size, isLength]; exact not_not.mpr rfl), isName, flags, encoded]
  unfold entryOf
  dsimp only
  rw [decodeUtf8_encoded]
  rfl

theorem listData_end (typed : frame.type = FileType.listData) (own : frame.streamId = streamId)
    (payload : frame.payload = [0, 0, 1, 0]) : listData frame streamId = .ok ⟨true, none⟩ := by
  have isOk : field frame.payload 0 2 = 0 := by
    rw [payload]
    rfl
  have size : frame.payload.length = 4 := by
    rw [payload]
    rfl
  unfold listData
  rw [checked_takes typed isOk size.ge size.ge]
  dsimp only
  rw [payload, if_neg (not_or.mpr ⟨not_not.mpr own, by decide⟩)]
  rfl

theorem listOpened_answer (typed : frame.type = FileType.listOpened) (own : frame.streamId = streamId)
    (ne : streamId ≠ 0) (payload : frame.payload = irisPutLe16 0 ++ [0, 0] ++ irisPutLe32 streamId) :
    listOpened frame = .ok streamId := by
  have isOk : field frame.payload 0 2 = 0 := by
    rw [payload]
    rfl
  have size : frame.payload.length = 8 := by
    rw [payload]
    rfl
  have isStream : UInt32.ofNat (field frame.payload 4 4) = streamId := by
    have number : field (irisPutLe16 0 ++ [0, 0] ++ (littleEndian 4 streamId.toNat ++ [])) 4 4 = streamId.toNat :=
      field_behind rfl streamId.toNat_lt
    rw [payload, irisPutLe32_eq, ← List.append_nil (littleEndian 4 streamId.toNat), number, UInt32.ofNat_toNat]
  unfold listOpened
  rw [checked_takes typed isOk size.ge (by omega)]
  dsimp only
  rw [if_neg (not_not.mpr size), isStream, if_neg (not_or.mpr ⟨ne, not_not.mpr own⟩)]

end frames

section serves
variable (setup : ListSetup)

def Idle (world : ListWorld) : Prop := world.task.tree = setup.tree ∧ world.task.handle.kind = .none

structure OpenAt (streamId : UInt32) (rest : List Entry) (world : ListWorld) : Prop where
  tree : world.task.tree = setup.tree
  kind : world.task.handle.kind = .list
  session : world.task.handle.sessionId = setup.sessionId
  stream : world.task.handle.streamId = streamId
  directory : world.task.handle.directoryPath = setup.directory
  rest : (Device.Files.listable setup.tree setup.directory world.readdir).map entryOf = rest

variable {setup}

theorem OpenAt.matches {streamId : UInt32} {rest : List Entry} {world : ListWorld}
    (opened : OpenAt setup streamId rest world)
    (type : UInt8) (payload : List UInt8) :
    world.task.handle.matches (workFor setup.sessionId world.serial ⟨type, streamId, payload⟩) = true := by
  unfold FileHandle.matches workFor
  rw [opened.session, opened.stream]
  simp

theorem exchange_handled {request : FileRequest} {world : ListWorld} {task : FileTask} {completion : FileCompletion}
    (handled : processWork setup.config setup.sha256 world.task (workFor setup.sessionId world.serial request)
      (setup.answersAt world) = (task, completion)) :
    setup.exchange request world =
      (.ok (frameOf completion), ⟨task, setup.readdirAfter world request.type completion, world.serial + 1⟩) := by
  unfold ListSetup.exchange
  rw [handled]

theorem readdirAfter_open {world : ListWorld} {completion : FileCompletion}
    (accepted : completion.status = FileStatus.ok.code) :
    setup.readdirAfter world FileType.listOpen completion = setup.entries := by
  unfold ListSetup.readdirAfter
  rw [if_neg (not_not.mpr accepted)]
  rfl

theorem readdirAfter_next {world : ListWorld} {completion : FileCompletion}
    (accepted : completion.status = FileStatus.ok.code) :
    setup.readdirAfter world FileType.listNext completion =
      readdirRest world.task.tree world.task.handle.directoryPath world.readdir := by
  unfold ListSetup.readdirAfter
  rw [if_neg (not_not.mpr accepted)]
  rfl

theorem setup_serves (setup : ListSetup) :
    Serves setup.exchange setup.payload setup.listable (Idle setup) (OpenAt setup) := by
  constructor
  · rintro world ⟨tree, idle⟩
    have found : listPath setup.config world.task.tree
        (workFor setup.sessionId world.serial ⟨FileType.listOpen, 0, setup.payload⟩) (setup.answersAt world) =
        .ok setup.directory := by
      rw [tree]
      exact setup.found
    have handled : processWork setup.config setup.sha256 world.task
        (workFor setup.sessionId world.serial ⟨FileType.listOpen, 0, setup.payload⟩) (setup.answersAt world) =
        world.task.withHandle (handleListOpen setup.config world.task.tree
          (workFor setup.sessionId world.serial ⟨FileType.listOpen, 0, setup.payload⟩) (setup.answersAt world)
          world.task.handle) := rfl
    rw [handleListOpen_opens idle found] at handled
    refine ⟨_, setup.streamId world.serial, _, exchange_handled handled, ?_, ⟨tree, rfl, rfl, rfl, rfl, ?_⟩⟩
    · exact listOpened_answer rfl rfl (setup.streamId_ne world.serial) rfl
    · dsimp only
      rw [readdirAfter_open]
      · rfl
      · exact completionBegin_status (workFor setup.sessionId world.serial ⟨FileType.listOpen, 0, setup.payload⟩)
          FileType.listOpened .ok (irisPutLe32 (setup.answersAt world).streamId)
  · intro streamId entry rest world opened
    have empty : (workFor setup.sessionId world.serial ⟨FileType.listNext, streamId, []⟩).payload = [] := rfl
    have left : nextEntry setup.tree setup.directory world.readdir = _ := nextEntry_head world.readdir
    have more := opened.rest
    cases reports : Device.Files.listable setup.tree setup.directory world.readdir with
    | nil =>
      rw [reports] at more
      contradiction
    | cons reported others =>
      obtain ⟨name, metadata⟩ := reported
      rw [reports] at more left
      obtain ⟨first, later⟩ := List.cons.inj more
      have found : nextEntry world.task.tree world.task.handle.directoryPath (setup.answersAt world).entries =
          some (name, metadata) := by
        rw [opened.tree, opened.directory]
        exact left
      obtain ⟨short, printable, known⟩ := nextEntry_named found
      obtain ⟨type, stream, payload⟩ := handleListNext_gives empty opened.kind (opened.matches _ _) found
      refine ⟨_, _, exchange_handled rfl, ?_, ?_⟩
      · rw [← first]
        exact listData_entry type (stream.trans opened.stream) payload short printable known
      · refine ⟨opened.tree, opened.kind, opened.session, opened.stream, opened.directory, ?_⟩
        have accepted : (handleListNext world.task.tree (workFor setup.sessionId world.serial
            ⟨FileType.listNext, streamId, []⟩) (setup.answersAt world) world.task.handle).status =
            FileStatus.ok.code := by
          unfold FileCompletion.status
          rw [payload, entryPayload_status]
        dsimp only
        rw [readdirAfter_next accepted, opened.tree, opened.directory, listable_rest, reports]
        exact later
  · intro streamId world opened
    have empty : (workFor setup.sessionId world.serial ⟨FileType.listNext, streamId, []⟩).payload = [] := rfl
    have nothing : Device.Files.listable setup.tree setup.directory world.readdir = [] :=
      List.map_eq_nil_iff.mp opened.rest
    have found : nextEntry world.task.tree world.task.handle.directoryPath (setup.answersAt world).entries = none := by
      rw [opened.tree, opened.directory]
      exact (nextEntry_head world.readdir).trans (by rw [nothing, List.head?_nil])
    obtain ⟨type, stream, payload⟩ := handleListNext_ends empty opened.kind (opened.matches _ _) found
    refine ⟨_, _, exchange_handled rfl, listData_end type (stream.trans opened.stream) payload, ?_⟩
    refine ⟨opened.tree, opened.kind, opened.session, opened.stream, opened.directory, ?_⟩
    have accepted : (handleListNext world.task.tree (workFor setup.sessionId world.serial
        ⟨FileType.listNext, streamId, []⟩) (setup.answersAt world) world.task.handle).status = FileStatus.ok.code := by
      unfold FileCompletion.status
      rw [payload]
      rfl
    dsimp only
    rw [readdirAfter_next accepted, opened.tree, opened.directory, listable_rest, nothing]
    rfl
  · intro streamId rest world opened
    have empty : (workFor setup.sessionId world.serial ⟨FileType.close, streamId, []⟩).payload = [] := rfl
    have closed := handleClose_closes empty opened.kind (opened.matches _ _)
    rw [exchange_handled rfl]
    exact ⟨opened.tree, congrArg FileHandle.kind closed⟩

end serves

/-- Whatever the limits of the calls, the pages are the entries that can be listed, each once and in the order of the
directory; the cursor grows from call to call, and the last call returns none. -/
theorem directory_paged (setup : ListSetup) (world : ListWorld) (unchanged : world.task.tree = setup.tree)
    (free : world.task.handle.kind = .none) (limit : Nat → Int)
    (inRange : ∀ index, 1 ≤ limit index ∧ limit index ≤ 200) :
    ∃ enoughTurns enoughCalls, ∀ turns ≥ enoughTurns, ∀ calls ≥ enoughCalls, ∃ pages after,
      listPages setup.exchange turns setup.volume setup.path limit calls 0 world = (some pages, after) ∧
        pages.flatMap ListPage.entries = setup.listable ∧
        pages.head?.map ListPage.cursor = some 0 ∧
        (pages.IsChain fun page next => page.nextCursor = some next.cursor ∧ page.cursor < next.cursor) ∧
        pages.getLast?.map ListPage.nextCursor = some none := by
  refine ⟨setup.listable.length + 1, setup.listable.length + 1, ?_⟩
  intro turns manyTurns calls manyCalls
  obtain ⟨pages, after, returned, chained⟩ := listPages_return (setup_serves setup) setup.isPayload
    (Nat.lt_of_succ_le manyTurns) inRange (show setup.listable.length - 0 < calls from Nat.lt_of_succ_le manyCalls)
    ⟨unchanged, free⟩
  exact ⟨pages, after, returned, chained.whole, chained.first, chained.grows, chained.done⟩

def smallTree : Tree := fun path =>
  if path = [0x2f, 0x64] then some .directory
  else if path = [0x2f, 0x64, 0x2f, 0x61] then some (.regular [1])
  else if path = [0x2f, 0x64, 0x2f, 0x62] then some .link
  else if path = [0x2f, 0x64, 0x2f, 0x63] then some .directory
  else none

def smallSetup : ListSetup where
  config := { volumes := [{ id := [0x76], basePath := [0x2f, 0x64], capabilities := 2 }], chunkBytes := 1024,
              offsetLimit := 2 ^ 31 }
  sha256 := id
  sessionId := 1
  volume := [0x76]
  path := []
  tree := smallTree
  answers := willingAnswers
  entries := [0x61, 0x62, 0x63].map fun name => ([name], .ok { permissions := 0o644, mtime := 5 })
  streamId serial := 7
  streamId_ne serial := by decide
  payload := [1, 0, 0, 0, 0x76]
  isPayload := by decide
  directory := [0x2f, 0x64]
  found := by decide

theorem smallSetup_listable : smallSetup.listable.map Entry.name = [['a'], ['c']] := by
  have first : decodeUtf8 [0x61] = some ['a'] := decodeUtf8_encoded ['a']
  have second : decodeUtf8 [0x63] = some ['c'] := decodeUtf8_encoded ['c']
  change [(decodeUtf8 [0x61]).getD [], (decodeUtf8 [0x63]).getD []] = _
  rw [first, second]
  rfl

/-- With one entry a page the calls return the file and then the directory. -/
theorem directory_paged_small : ∃ turns calls pages after,
    listPages smallSetup.exchange turns [0x76] [] (fun _ => 1) calls 0 ⟨.zero smallTree, [], 0⟩ = (some pages, after) ∧
      (pages.flatMap ListPage.entries).map Entry.name = [['a'], ['c']] := by
  obtain ⟨turns, calls, paged⟩ := directory_paged smallSetup ⟨.zero smallTree, [], 0⟩ rfl rfl (fun _ => 1)
    (fun _ => by decide)
  obtain ⟨pages, after, returned, whole, -⟩ := paged turns le_rfl calls le_rfl
  exact ⟨turns, calls, pages, after, returned, whole ▸ smallSetup_listable⟩

end EspIris.Link.Listing
