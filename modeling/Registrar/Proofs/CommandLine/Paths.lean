import Mathlib.Data.List.Sections
import Registrar.CommandLine.Run
import Registrar.Proofs.Http.Contract
import Registrar.Proofs.Number.Layout
import Registrar.Proofs.Storage.FileNames

/-!
# Names on their way to the service

Four commands put names into the path of a request: adding a dataset, removing one, showing the
reviews of a room and rating it. Names may hold anything: slashes, percent signs, blanks, question
marks, hash signs, letters outside ASCII. The service cuts the path at its slashes, selects an
endpoint, and decodes the parts of the path once.

What decides the matter is which characters an encoded name has. None of them ends a part of a path,
a path, or an address, so the path is cut where the command put the slashes and nowhere else. Then a
name stands alone in its part, and decoding gives it back. A score is not encoded; its text has
nothing in it that would need to be.

A client settles the dots in an address before it sends a request. Dots are not encoded, so a path
is sent as it was built unless one of its names is a single or a double dot.

## Main definitions

* `Command.names`, `Errand`, `Command.errand?` — the names in a path, and what the path is for.
* `Invocation.request?` — the request of a command.
* `IsPart`, `pathChars` — parts of a path, and their path.
* `Request.Reaches` — an endpoint with its parts, as a request reaches it.

## Main results

* `Invocation.names_arrive` — the names reach the endpoint as they were typed.
* `Errand.ofText?_address` — what is asked for at the address of a path is the path.
-/

namespace Registrar

/-! ### Commands and their errands -/

/-- What a path is for: what is done with it, and what that asks of the service. -/
structure Errand where
  method : Method
  path : String
  /-- The names in it are those that were typed. -/
  endpoint : Endpoint
deriving DecidableEq, Repr

namespace Command

/-- The names that a command puts into a path. -/
def names : Command → List String
  | add id kind _ => [id, kind]
  | remove id => [id]
  | review room => [room]
  | rate room _ => [room]
  | _ => []

/-- The errand of a command with names. -/
def errand? : Command → Option Errand
  | add id kind _ => some ⟨.put, addPath id kind, .addDataset id kind⟩
  | remove id => some ⟨.delete, removePath id, .removeDataset id⟩
  | review room => some ⟨.get, reviewPath room, .showReviews room⟩
  | rate room score => some ⟨.post, ratePath room score, .submitScore room score.plainText⟩
  | _ => none

/-- The value that goes with a request, if the command takes one from a file: nothing is sent if
there is none to be read. -/
def body? (surroundings : Surroundings) : Command → Option (Option Json)
  | add _ _ path => (surroundings.read (.file path)).toOption.bind fun text =>
      (Json.parse? text).map some
  | _ => some none

end Command

/-- The request for an errand, if there is an address for its path. -/
def Errand.request? (errand : Errand) (apiUrl : String) (body : Option Json) :
    Option ClientRequest :=
  (Address.ofText? (apiUrl ++ errand.path)).map (⟨errand.method, ·, body.map Json.compact⟩)

/-- The request of an invocation with an errand. -/
def Invocation.request? (invocation : Invocation) (surroundings : Surroundings)
    (errand : Errand) : Option ClientRequest :=
  (invocation.command.body? surroundings).bind (errand.request? invocation.apiUrl)

/-! ### What a run sends -/

namespace Plan

variable {surroundings : Surroundings}

/-- A plan that asks once sends one request, whatever that brings. -/
theorem sent_request {apiUrl : String} (errand : Errand) {body : Option Json} {next : Json → Plan}
    (hnext : ∀ answer (after : Surroundings), ((next answer).run after).2.sent = after.sent) :
    ((request apiUrl errand.method errand.path body next).run surroundings).2.sent =
      (errand.request? apiUrl body).toList ++ surroundings.sent := by
  rw [request, send, addressOf, Errand.request?]
  cases Address.ofText? (apiUrl ++ errand.path) with
  | none => rfl
  | some address =>
    dsimp only [run, Surroundings.ask]
    cases surroundings.service ⟨errand.method, address, body.map Json.compact⟩ with
    | error reason => rfl
    | ok response =>
      dsimp only
      split
      · exact hnext _ _
      · rfl

/-- **A run sends the request for its errand and no other.** -/
theorem sent_ofInvocation {invocation : Invocation} {errand : Errand}
    (herrand : invocation.command.errand? = some errand) (surroundings : Surroundings) :
    ((ofInvocation invocation).run surroundings).2.sent =
      (invocation.request? surroundings errand).toList ++ surroundings.sent := by
  obtain ⟨apiUrl, format, command⟩ := invocation
  cases command with
  | add id kind path =>
    obtain rfl := Option.some.inj herrand
    simp only [ofInvocation, add, readJson, run, Invocation.request?, Command.body?]
    cases surroundings.read (.file path) with
    | error cause => rfl
    | ok text =>
      simp only [Except.toOption, Option.bind_some]
      cases Json.parse? text with
      | none => rfl
      | some records =>
        refine sent_request ⟨.put, _, _⟩ fun answer after => ?_
        rfl
  | remove id =>
    obtain rfl := Option.some.inj herrand
    simp only [ofInvocation, remove]
    refine sent_request ⟨.delete, _, _⟩ fun answer after => ?_
    rfl
  | review room =>
    obtain rfl := Option.some.inj herrand
    simp only [ofInvocation, review]
    refine sent_request ⟨.get, _, _⟩ fun answer after => ?_
    rfl
  | rate room score =>
    obtain rfl := Option.some.inj herrand
    simp only [ofInvocation, rate]
    refine sent_request ⟨.post, _, _⟩ fun answer after => ?_
    rfl
  | datasets | query | status | config => cases herrand

end Plan

/-! ### Parts of a path -/

/-- The characters that end a part of a path, a path, or an address. -/
def pathMarks : List Char := ['/', '?', '#']

/-- A text that is a part of a path as it stands. -/
def IsPart (text : String) : Prop :=
  ∀ c ∈ text.toList, c ∉ pathMarks

instance (text : String) : Decidable (IsPart text) :=
  List.decidableBAll (· ∉ pathMarks) text.toList

/-- The path of the given parts. -/
def pathChars (parts : List String) : List Char :=
  parts.flatMap fun part => '/' :: part.toList

theorem pathChars_cons (part : String) (parts : List String) :
    pathChars (part :: parts) = '/' :: (part.toList ++ pathChars parts) := by
  rw [pathChars, List.flatMap_cons, List.cons_append, pathChars]

/-- A path is cut where its parts were put together. -/
theorem pieces_pathChars {part : String} {parts : List String}
    (hparts : ∀ other ∈ part :: parts, IsPart other) :
    pieces '/' (part.toList ++ pathChars parts) = (part :: parts).map String.toList := by
  have hslash {other : String} (hother : other ∈ part :: parts) : '/' ∉ other.toList :=
    fun h => hparts other hother '/' h (by decide)
  induction parts generalizing part with
  | nil =>
    rw [pathChars, List.flatMap_nil, List.append_nil,
      pieces_of_notMem (hslash List.mem_cons_self)]
    rfl
  | cons next parts ih =>
    obtain ⟨-, hrest⟩ := List.forall_mem_cons.mp hparts
    rw [pathChars_cons, pieces_append_cons, pieces_of_notMem (hslash List.mem_cons_self),
      ih hrest fun hother => hslash (List.mem_cons_of_mem part hother)]
    rfl

theorem Resource.ofPath?_of_parts {path part : String} {parts : List String}
    (hpath : path.toList = pathChars (part :: parts))
    (hparts : ∀ other ∈ part :: parts, IsPart other) :
    ofPath? path = ofPieces? (part :: parts) := by
  rw [ofPath?, hpath, pathChars_cons]
  change ofPieces? ((pieces '/' (part.toList ++ pathChars parts)).map String.ofList) = _
  rw [pieces_pathChars hparts, List.map_map]
  have hid : String.ofList ∘ String.toList = id := funext fun text => text.ofList_toList
  rw [hid, List.map_id]

theorem splitFirst_of_notMem {separator : Char} {text : List Char} (h : separator ∉ text) :
    splitFirst separator text = (text, none) := by
  have hall : ∀ c ∈ text, (c != separator) = true := fun c hc =>
    bne_iff_ne.mpr fun hsame => h (hsame ▸ hc)
  rw [splitFirst, List.dropWhile_eq_nil_iff.mpr hall]

/-- No question mark and no hash sign stands in a path of parts. -/
theorem notMem_pathChars {parts : List String} (hparts : ∀ part ∈ parts, IsPart part) {mark : Char}
    (hmark : mark ∈ pathMarks) (hslash : mark ≠ '/') : mark ∉ pathChars parts := by
  intro h
  obtain ⟨part, hpart, hmem⟩ := List.mem_flatMap.mp h
  obtain hsame | hmem := List.mem_cons.mp hmem
  · exact hslash hsame
  · exact hparts part hpart mark hmem hmark

/-- All of the path is the path of the request. -/
theorem Request.ofTarget_of_parts {path : String} {parts : List String}
    (hpath : path.toList = pathChars parts) (hparts : ∀ part ∈ parts, IsPart part)
    (method : Method) (headers : List (String × String)) (body : String) :
    ofTarget method path headers body = ⟨method, path, "", headers, body⟩ := by
  rw [ofTarget, hpath, splitFirst_of_notMem (notMem_pathChars hparts (by decide) (by decide))]
  dsimp only
  rw [splitFirst_of_notMem (notMem_pathChars hparts (by decide) (by decide))]
  dsimp only
  rw [← hpath, String.ofList_toList]
  rfl

theorem toList_append_part {base : String} {words : List String}
    (hbase : base.toList = pathChars words ++ ['/']) (part : String) :
    (base ++ part).toList = pathChars (words ++ [part]) := by
  rw [String.toList_append, hbase]
  simp [pathChars]

theorem toList_append_parts {base : String} {words : List String}
    (hbase : base.toList = pathChars words ++ ['/']) (part last : String) :
    (base ++ part ++ "/" ++ last).toList = pathChars (words ++ [part, last]) := by
  have hslash : (base ++ part ++ "/").toList = pathChars (words ++ [part]) ++ ['/'] := by
    rw [String.toList_append, toList_append_part hbase]
    rfl
  rw [toList_append_part hslash, List.append_assoc]
  rfl

/-! ### Encoded names as parts -/

theorem Percent.isPart_encode (name : String) : IsPart (encode name) := by
  intro c hc hmark
  rw [encode, String.toList_ofList] at hc
  simp only [pathMarks, List.mem_cons, List.not_mem_nil, or_false] at hmark
  obtain rfl | rfl | rfl := hmark
  · exact notMem_encodeChars name 47 (by decide) (by decide) (by decide) hc
  · exact notMem_encodeChars name 63 (by decide) (by decide) (by decide) hc
  · exact notMem_encodeChars name 35 (by decide) (by decide) (by decide) hc

theorem Percent.not_isEmpty_encode {name : String} (h : name ≠ "") :
    ¬(encode name).isEmpty = true := by
  rw [String.isEmpty_iff, ← String.toList_eq_nil_iff, encode,
    String.toList_ofList]
  exact encode_ne_empty h

/-! ### Texts of numbers as parts -/

/-- Such a character ends nothing, and starts no encoded byte. -/
theorem isNumberChar_spec {c : Char} (h : Binary64.isNumberChar c = true) :
    c ∉ pathMarks ∧ 37 ∉ String.utf8EncodeChar c := by
  have hascii : c.toNat < 128 := by
    rw [Binary64.isNumberChar, Bool.or_eq_true] at h
    obtain hdigit | hother := h
    · have hbounds : '0' ≤ c ∧ c ≤ '9' := of_decide_eq_true hdigit
      exact Nat.lt_of_le_of_lt (Char.le_def.mp hbounds.2) (by decide)
    · simp only [List.contains_eq_mem, decide_eq_true_eq, List.mem_cons, List.not_mem_nil,
        or_false] at hother
      obtain rfl | rfl | rfl | rfl | rfl | rfl | rfl := hother <;> decide
  have hall : ∀ n < 128, Binary64.isNumberChar (Char.ofNat n) = true →
      Char.ofNat n ∉ pathMarks ∧ 37 ∉ String.utf8EncodeChar (Char.ofNat n) := by decide
  have hc := hall c.toNat hascii
  rw [Char.ofNat_toNat] at hc
  exact hc h

theorem Binary64.isPart_plainText (x : Binary64) : IsPart x.plainText := fun _ hc =>
  (isNumberChar_spec (Binary64.isNumberChar_of_mem_plainText hc)).1

/-- Bytes without a percent sign are decoded as they are. -/
theorem Percent.decodeBytes_of_notMem {bytes : List UInt8} (h : 37 ∉ bytes) :
    decodeBytes bytes = bytes := by
  induction bytes with
  | nil => rfl
  | cons byte bytes ih =>
    rw [List.mem_cons, not_or] at h
    rw [decodeBytes, ih h.2]
    rintro high low rest hpercent
    exact absurd hpercent.symm h.1

/-- The text of a number is decoded as it is. -/
theorem Binary64.decode?_plainText (x : Binary64) :
    Percent.decode? x.plainText = some x.plainText := by
  have hbytes : 37 ∉ utf8Bytes x.plainText := by
    rw [← x.plainText.ofList_toList, utf8Bytes_ofList]
    intro h
    obtain ⟨c, hc, hbyte⟩ := List.mem_flatMap.mp h
    exact (isNumberChar_spec (Binary64.isNumberChar_of_mem_plainText hc)).2 hbyte
  rw [Percent.decode?, Percent.decodeBytes_of_notMem hbytes, textOfUtf8?_utf8Bytes]

theorem Binary64.not_isEmpty_plainText (x : Binary64) : ¬x.plainText.isEmpty = true := by
  rw [String.isEmpty_iff]
  exact x.plainText_ne (by decide) (by decide)

/-! ### The parts of a command's path -/

namespace Command

/-- The parts of the path for a command with names. -/
def parts : Command → List String
  | add id kind _ => ["api", "v1", "dataset", Percent.encode id, Percent.encode kind]
  | remove id => ["api", "v1", "dataset", Percent.encode id]
  | review room => ["api", "v1", "reviews", Percent.encode room]
  | rate room score => ["api", "v1", "reviews", Percent.encode room, score.plainText]
  | _ => []

/-- A part is a fixed word, an encoded name or the text of a number. -/
inductive IsPartOf (command : Command) : String → Prop where
  | word {text : String} (h : text ∈ ["api", "v1", "dataset", "reviews"]) : IsPartOf command text
  | name {name : String} (h : name ∈ command.names) : IsPartOf command (Percent.encode name)
  | number (x : Binary64) : IsPartOf command x.plainText

theorem isPartOf_of_mem_parts {command : Command} {part : String} (h : part ∈ command.parts) :
    command.IsPartOf part := by
  cases command with
  | add id kind path =>
    simp only [parts, List.mem_cons, List.not_mem_nil, or_false] at h
    obtain rfl | rfl | rfl | rfl | rfl := h
    · exact .word (by decide)
    · exact .word (by decide)
    · exact .word (by decide)
    · exact .name List.mem_cons_self
    · exact .name (List.mem_cons_of_mem _ List.mem_cons_self)
  | remove id | review id =>
    simp only [parts, List.mem_cons, List.not_mem_nil, or_false] at h
    obtain rfl | rfl | rfl | rfl := h
    · exact .word (by decide)
    · exact .word (by decide)
    · exact .word (by decide)
    · exact .name List.mem_cons_self
  | rate room score =>
    simp only [parts, List.mem_cons, List.not_mem_nil, or_false] at h
    obtain rfl | rfl | rfl | rfl | rfl := h
    · exact .word (by decide)
    · exact .word (by decide)
    · exact .word (by decide)
    · exact .name List.mem_cons_self
    · exact .number score
  | datasets | query | status | config => cases h

theorem isPart_of_mem_parts {command : Command} : ∀ part ∈ command.parts, IsPart part := by
  intro part hpart
  cases isPartOf_of_mem_parts hpart with
  | word h =>
    have hall : ∀ text ∈ ["api", "v1", "dataset", "reviews"], IsPart text := by decide
    exact hall part h
  | name => exact Percent.isPart_encode _
  | number x => exact x.isPart_plainText

theorem toList_path {command : Command} {errand : Errand}
    (herrand : command.errand? = some errand) :
    errand.path.toList = pathChars command.parts := by
  have hdataset : "/api/v1/dataset/".toList = pathChars ["api", "v1", "dataset"] ++ ['/'] := by
    decide
  have hreviews : "/api/v1/reviews/".toList = pathChars ["api", "v1", "reviews"] ++ ['/'] := by
    decide
  cases command with
  | add id kind path =>
    obtain rfl := Option.some.inj herrand
    exact toList_append_parts hdataset _ _
  | remove id =>
    obtain rfl := Option.some.inj herrand
    exact toList_append_part hdataset _
  | review room =>
    obtain rfl := Option.some.inj herrand
    exact toList_append_part hreviews _
  | rate room score =>
    obtain rfl := Option.some.inj herrand
    exact toList_append_parts hreviews _ _
  | datasets | query | status | config => cases herrand

end Command

/-! ### Arriving at an endpoint -/

/-- A request reaches an endpoint with its parts decoded. -/
structure Request.Reaches (request : Request) (endpoint : Endpoint) : Prop where
  /-- The path and the method select the endpoint. -/
  selects : ∃ resource encoded, Resource.ofPath? request.path = some resource ∧
    resource.endpoint? request.method = some encoded ∧ encoded.decode? = .ok endpoint
  /-- Every service answers with what the endpoint comes to, and is left as the endpoint leaves
  it. -/
  answered : ∀ (service : Service) (arrival : Arrival),
    (service.exchange request arrival).1.Tells (Service.responseOf arrival.requestId
        ((Service.perform request arrival endpoint).run service).1) ∧
      (service.exchange request arrival).2 =
        ((Service.perform request arrival endpoint).run service).2

namespace Endpoint

variable {roomPart scorePart room score : String}

theorem decode?_showReviews (hroom : Percent.decode? roomPart = some room) :
    (showReviews roomPart).decode? = .ok (showReviews room) := by
  simp only [decode?, decode?.part, hroom]
  rfl

theorem decode?_submitScore (hroom : Percent.decode? roomPart = some room)
    (hscore : Percent.decode? scorePart = some score) :
    (submitScore roomPart scorePart).decode? = .ok (submitScore room score) := by
  simp only [decode?, decode?.part, hroom, hscore]
  rfl

end Endpoint

namespace Command

/-- The parts select the endpoint of a command, and decoding them gives the names. -/
theorem exists_route {command : Command} {errand : Errand}
    (herrand : command.errand? = some errand) (hnames : "" ∉ command.names) :
    ∃ resource encoded, Resource.ofPieces? command.parts = some resource ∧
      resource.endpoint? errand.method = some encoded ∧ encoded.decode? = .ok errand.endpoint := by
  have hname {name : String} (h : name ∈ command.names) :
      ¬(Percent.encode name).isEmpty = true :=
    Percent.not_isEmpty_encode (ne_of_mem_of_not_mem h hnames)
  cases command with
  | add id kind path =>
    obtain rfl := Option.some.inj herrand
    exact ⟨.datasetOfKind _ _, _, if_neg (hname (List.mem_cons_of_mem _ List.mem_cons_self)), rfl,
      Endpoint.decode?_addDataset (Percent.decode?_encode id) (Percent.decode?_encode kind)⟩
  | remove id =>
    obtain rfl := Option.some.inj herrand
    exact ⟨.dataset _, _, if_neg (hname List.mem_cons_self), rfl,
      Endpoint.decode?_removeDataset (Percent.decode?_encode id)⟩
  | review room =>
    obtain rfl := Option.some.inj herrand
    exact ⟨.room _, _, if_neg (hname List.mem_cons_self), rfl,
      Endpoint.decode?_showReviews (Percent.decode?_encode room)⟩
  | rate room score =>
    obtain rfl := Option.some.inj herrand
    exact ⟨.roomScore _ _, _, if_neg score.not_isEmpty_plainText, rfl,
      Endpoint.decode?_submitScore (Percent.decode?_encode room) score.decode?_plainText⟩
  | datasets | query | status | config => cases herrand

theorem parts_ne_nil {command : Command} {errand : Errand}
    (herrand : command.errand? = some errand) : command.parts ≠ [] := by
  cases command with
  | add | remove | review | rate => exact List.cons_ne_nil _ _
  | datasets | query | status | config => cases herrand

theorem method_cases {command : Command} {errand : Errand}
    (herrand : command.errand? = some errand) :
    errand.method ≠ .options ∧ errand.method ≠ .head := by
  cases command with
  | add | remove | review | rate =>
    obtain rfl := Option.some.inj herrand
    exact ⟨nofun, nofun⟩
  | datasets | query | status | config => cases herrand

end Command

namespace Invocation

/-- **Names arrive as they were typed.** For every command with names in its path, none of them
empty, the path leads to the endpoint of the command, and the decoded parts are the names; the score
of a rating arrives as its text. Whatever they hold, services answer with what that endpoint comes
to. A run sends a request for this path, and nothing else. -/
theorem names_arrive {invocation : Invocation} {errand : Errand}
    (herrand : invocation.command.errand? = some errand) (hnames : "" ∉ invocation.command.names) :
    (∀ headers body,
      (Request.ofTarget errand.method errand.path headers body).Reaches errand.endpoint) ∧
    ∀ surroundings, ((Plan.ofInvocation invocation).run surroundings).2.sent =
      (invocation.request? surroundings errand).toList ++ surroundings.sent := by
  refine ⟨fun headers body => ?_, Plan.sent_ofInvocation herrand⟩
  have hpath := Command.toList_path herrand
  have hparts : ∀ part ∈ invocation.command.parts, IsPart part := Command.isPart_of_mem_parts
  obtain ⟨hoptions, hhead⟩ := Command.method_cases herrand
  obtain ⟨resource, encoded, hpieces, hendpoint, hdecode⟩ := Command.exists_route herrand hnames
  have hresource : Resource.ofPath? errand.path = some resource := by
    obtain ⟨part, others, hcons⟩ := List.exists_cons_of_ne_nil (Command.parts_ne_nil herrand)
    rw [hcons] at hpath hparts hpieces
    rw [Resource.ofPath?_of_parts hpath hparts, hpieces]
  rw [Request.ofTarget_of_parts hpath hparts]
  exact ⟨⟨resource, encoded, hresource, hendpoint, hdecode⟩, fun service arrival =>
    Service.exchange_of_asks service arrival ⟨rfl, hresource⟩ hoptions hhead hendpoint hdecode⟩

/-- An id with slashes, a percent sign and a question mark, as kind a text that is no kind, and a
file with no records in it: what is sent reaches the endpoint with the id and the text. -/
theorem names_arrive_marks :
    let invocation : Invocation :=
      ⟨"http://localhost:4321", "table", .add "a/b ?%2F" "../ü#+" "r.json"⟩
    let errand : Errand :=
      ⟨.put, "/api/v1/dataset/a%2Fb%20%3F%252F/..%2F%C3%BC%23%2B", .addDataset "a/b ?%2F" "../ü#+"⟩
    let surroundings : Surroundings :=
      ⟨Disk.empty.setNode ["r.json"] (.file (utf8Bytes "[]")), "", fun _ => .error "", []⟩
    invocation.command.errand? = some errand ∧ "" ∉ invocation.command.names ∧
      ((Plan.ofInvocation invocation).run surroundings).2.sent =
        [⟨.put, ⟨false, "localhost:4321", errand.path⟩, some "[]"⟩] ∧
      (Request.ofTarget .put errand.path [] "[]").Reaches errand.endpoint := by
  intro invocation errand surroundings
  have herrand : invocation.command.errand? = some errand := by decide +kernel
  have hnames : "" ∉ invocation.command.names := by decide
  obtain ⟨hreaches, hsent⟩ := names_arrive herrand hnames
  refine ⟨herrand, hnames, (hsent surroundings).trans ?_, hreaches [] "[]"⟩
  decide +kernel

end Invocation

/-! ### Dots -/

namespace Address

/-- A part of a path that a client does not send as it stands. -/
def IsDots (part : String) : Prop :=
  isSingleDot part.toList = true ∨ isDoubleDot part.toList = true

theorem mem_of_toLower_eq {c lower : Char} (h : c.toLower = lower) :
    c ∈ [lower, lower.toUpper] := by
  subst h
  by_cases hc : c.toNat < 128
  · have hall : ∀ n < 128, Char.ofNat n ∈
        [(Char.ofNat n).toLower, (Char.ofNat n).toLower.toUpper] := by decide
    have hmem := hall c.toNat hc
    rwa [Char.ofNat_toNat] at hmem
  · have hsame : c.toLower = c :=
      dif_neg fun hletter => hc (Nat.lt_of_le_of_lt hletter.2 (by decide))
    rw [hsame]
    exact List.mem_cons_self

/-- The texts that are the same in lower case. -/
def spellings (lower : String) : List (List Char) :=
  (lower.toList.map fun c => [c, c.toUpper]).sections

theorem mem_spellings {text : List Char} {lower : String}
    (h : String.ofList (text.map Char.toLower) = lower) : text ∈ spellings lower := by
  rw [spellings, List.mem_sections, List.forall₂_map_right_iff, ← h, String.toList_ofList,
    List.forall₂_map_right_iff]
  exact List.forall₂_same.mpr fun c _ => mem_of_toLower_eq rfl

/-- Dots in any spelling decode to one dot or two. -/
theorem decode?_of_isDots {part : String} (h : IsDots part) :
    Percent.decode? part ∈ [some ".", some ".."] := by
  have hlower : String.ofList (part.toList.map Char.toLower) ∈
      [".", "%2e", "..", ".%2e", "%2e.", "%2e%2e"] := by
    simp only [IsDots, isSingleDot, isDoubleDot, List.contains_iff_mem] at h
    exact List.mem_append.mpr h
  have hall : ∀ lower ∈ [".", "%2e", "..", ".%2e", "%2e.", "%2e%2e"],
      ∀ text ∈ spellings lower, Percent.decode? (String.ofList text) ∈ [some ".", some ".."] := by
    decide +kernel
  have hpart := hall _ hlower _ (mem_spellings rfl)
  rwa [String.ofList_toList] at hpart

/-- Where there are no dots, nothing is settled. -/
theorem settleDots_of_not_dots {parts : List String} (h : ∀ part ∈ parts, ¬IsDots part)
    (kept : List (List Char)) :
    settleDots kept (parts.map String.toList) = kept.reverse ++ parts.map String.toList := by
  induction parts generalizing kept with
  | nil => rw [List.map_nil, settleDots, List.append_nil]
  | cons part parts ih =>
    obtain ⟨hpart, hrest⟩ := List.forall_mem_cons.mp h
    obtain ⟨hsingle, hdouble⟩ := not_or.mp hpart
    rw [List.map_cons, settleDots, if_neg hdouble, if_neg hsingle, ih hrest, List.reverse_cons,
      List.append_assoc, List.singleton_append]

theorem intercalate_parts (part : String) (parts : List String) :
    '/' :: ['/'].intercalate ((part :: parts).map String.toList) = pathChars (part :: parts) := by
  induction parts generalizing part with
  | nil => simp [pathChars]
  | cons next parts ih =>
    rw [pathChars_cons, ← ih next, List.map_cons, List.map_cons, List.intercalate_cons_cons]
    simp

theorem settlePath_pathChars {part : String} {parts : List String}
    (hparts : ∀ other ∈ part :: parts, IsPart other)
    (hdots : ∀ other ∈ part :: parts, ¬IsDots other) :
    settlePath (pathChars (part :: parts)) = pathChars (part :: parts) := by
  rw [settlePath, pathChars_cons, List.drop_one, List.tail_cons, pieces_pathChars hparts,
    settleDots_of_not_dots hdots, List.reverse_nil, List.nil_append, intercalate_parts,
    pathChars_cons]

theorem afterScheme?_append {scheme rest : String} {isSecure : Bool}
    (hscheme : (scheme, isSecure) ∈ schemes) :
    afterScheme? (scheme ++ "://" ++ rest).toList = some (isSecure, rest.toList) := by
  rw [String.toList_append, String.toList_append]
  simp only [schemes, List.mem_cons, List.not_mem_nil, or_false, Prod.mk.injEq] at hscheme
  obtain ⟨rfl, rfl⟩ | ⟨rfl, rfl⟩ := hscheme <;> rfl

/-- What is asked for at the address of a path without dots is the path. -/
theorem ofText?_of_parts {scheme host path part : String} {isSecure : Bool} {parts : List String}
    (hscheme : (scheme, isSecure) ∈ schemes) (hhost : IsPart host) (hsome : host ≠ "")
    (hpath : path.toList = pathChars (part :: parts))
    (hparts : ∀ other ∈ part :: parts, IsPart other)
    (hdots : ∀ other ∈ part :: parts, ¬IsDots other) :
    ofText? (scheme ++ "://" ++ (host ++ path)) = some ⟨isSecure, host, path⟩ := by
  have hchar : ∀ c ∈ host.toList, (c != '/' && c != '?' && c != '#') = true := by
    intro c hc
    have hmark := hhost c hc
    simp only [pathMarks, List.mem_cons, List.not_mem_nil, or_false, not_or] at hmark
    simp [hmark]
  have htake : (host.toList ++ path.toList).takeWhile
      (fun c => c != '/' && c != '?' && c != '#') = host.toList := by
    rw [List.takeWhile_append_of_pos hchar, hpath, pathChars_cons, List.takeWhile_cons_of_neg
      (by decide), List.append_nil]
  have hdrop : (host.toList ++ path.toList).dropWhile
      (fun c => c != '/' && c != '?' && c != '#') = path.toList := by
    rw [List.dropWhile_append_of_pos hchar, hpath, pathChars_cons, List.dropWhile_cons_of_neg
      (by decide)]
  have hempty : host.toList.isEmpty = false := by
    rw [List.isEmpty_eq_false_iff, ne_eq, String.toList_eq_nil_iff]
    exact hsome
  rw [ofText?, afterScheme?_append hscheme, String.toList_append]
  dsimp only [Option.bind_eq_bind, Option.bind_some]
  rw [htake, hdrop, hempty, if_neg Bool.false_ne_true, hpath,
    splitFirst_of_notMem (notMem_pathChars hparts (by decide) (by decide))]
  dsimp only
  rw [splitFirst_of_notMem (notMem_pathChars hparts (by decide) (by decide))]
  dsimp only
  rw [settlePath_pathChars hparts hdots, ← hpath, String.ofList_toList, String.ofList_toList]
  rfl

end Address

namespace Command

/-- Only a name can be a part with dots. -/
theorem not_isDots_of_mem_parts {command : Command} (hdot : "." ∉ command.names)
    (hdots : ".." ∉ command.names) {part : String} (hpart : part ∈ command.parts) :
    ¬Address.IsDots part := by
  intro h
  have hdecode := Address.decode?_of_isDots h
  cases isPartOf_of_mem_parts hpart with
  | word hword =>
    have hall : ∀ text ∈ ["api", "v1", "dataset", "reviews"],
        Percent.decode? text ∉ [some ".", some ".."] := by decide +kernel
    exact hall part hword hdecode
  | name hname =>
    rw [Percent.decode?_encode] at hdecode
    simp only [List.mem_cons, List.not_mem_nil, or_false, Option.some.injEq] at hdecode
    obtain rfl | rfl := hdecode
    · exact hdot hname
    · exact hdots hname
  | number x =>
    rw [x.decode?_plainText] at hdecode
    simp only [List.mem_cons, List.not_mem_nil, or_false, Option.some.injEq] at hdecode
    obtain hdecode | hdecode := hdecode
    · exact x.plainText_ne (by decide) (by decide) hdecode
    · exact x.plainText_ne (by decide) (by decide) hdecode

end Command

/-- **What is asked for at the address of a path is the path**, unless a name in it is a single or a
double dot. -/
theorem Errand.ofText?_address {command : Command} {errand : Errand}
    (herrand : command.errand? = some errand) (hdot : "." ∉ command.names)
    (hdots : ".." ∉ command.names) {scheme host : String} {isSecure : Bool}
    (hscheme : (scheme, isSecure) ∈ Address.schemes) (hhost : IsPart host) (hsome : host ≠ "") :
    Address.ofText? (scheme ++ "://" ++ host ++ errand.path) =
      some ⟨isSecure, host, errand.path⟩ := by
  have hpath := Command.toList_path herrand
  have hparts : ∀ part ∈ command.parts, IsPart part := Command.isPart_of_mem_parts
  have hplain : ∀ part ∈ command.parts, ¬Address.IsDots part := fun _ =>
    Command.not_isDots_of_mem_parts hdot hdots
  obtain ⟨part, others, hcons⟩ := List.exists_cons_of_ne_nil (Command.parts_ne_nil herrand)
  rw [hcons] at hpath hparts hplain
  rw [String.append_assoc, Address.ofText?_of_parts hscheme hhost hsome hpath hparts hplain]

/-- Two dots take the part before them away. -/
example :
    (Address.ofText? ("http://localhost" ++ Command.removePath "..")).map Address.target =
      some "/api/v1/" := by
  decide +kernel

end Registrar
