import Mathlib.Data.List.TakeWhile
import MeetingRoom.Meeting.Client
import MeetingRoom.Proofs.Targets

/-!
Which endpoint a meeting is asked for at. The id of a meeting is put into an address and the address
is then read, so an id can cut the address short, go back in it or lose characters on the way. The
requests of a client have the target that is meant exactly for the ids that do none of it, and what
differs in these ids, or in what is asked, differs in the target.
-/

namespace MeetingRoom.Meeting

open Target (IsFolder endsSegment encodeSegment isBreak isMark isPlain isSlash isSpaceOrControl
  pathOf)
open Text (spelledBytes)

/-! ### Sites -/

/-- An ordinary address: a scheme of the web, a server and perhaps folders. -/
structure Site where
  scheme : List Char
  server : List Char
  folders : List (List Char)
  web : Target.isWebScheme scheme = true
  accepted : Server.accepts server = true
  plain : ∀ char ∈ server, isPlain char = true
  settled : ∀ folder ∈ folders, IsFolder folder

namespace Site

def text (site : Site) : List Char :=
  site.scheme ++ ':' :: '/' :: '/' :: (site.server ++ pathOf site.folders)

def url (site : Site) (slashes : Nat) : String :=
  String.ofList (site.text ++ List.replicate slashes '/')

def within (site : Site) {more : List (List Char)} (kept : ∀ folder ∈ more, IsFolder folder) :
    Site :=
  { site with
    folders := site.folders ++ more
    settled := fun folder member =>
      (List.mem_append.mp member).elim (site.settled folder) (kept folder) }

theorem mem_scheme {site : Site} {char : Char} (member : char ∈ site.scheme) :
    isSpaceOrControl char = false ∧ char ≠ ':' := by
  have lowered : char.toLower ∈ "https".toList := by
    have among : char.toLower ∈ site.scheme.map Char.toLower := List.mem_map_of_mem member
    have web := site.web
    simp only [Target.isWebScheme, Bool.or_eq_true, decide_eq_true_eq] at web
    rcases web with http | https
    · rw [http] at among
      have fewer : "http".toList.Sublist "https".toList := by decide
      exact fewer.subset among
    · rwa [https] at among
  by_cases upper : char.val ≥ 'A'.val ∧ char.val ≤ 'Z'.val
  · have above : 65 ≤ char.toNat := UInt32.le_iff_toNat_le.mp upper.1
    constructor
    · exact decide_eq_false (by omega)
    · rintro rfl
      exact absurd above (by decide)
  · have same : char.toLower = char := dif_neg upper
    have all : "https".toList.all (fun letter => !isSpaceOrControl letter && letter ≠ ':') = true :=
      by decide
    rw [same] at lowered
    simpa using List.all_eq_true.mp all char lowered

theorem server_ne_nil (site : Site) : site.server ≠ [] := by
  intro empty
  have accepted := site.accepted
  rw [empty] at accepted
  cases accepted

theorem visible (site : Site) : ∀ char ∈ site.text, isSpaceOrControl char = false := by
  intro char member
  simp only [text, List.mem_append, List.mem_cons] at member
  rcases member with inScheme | rfl | rfl | rfl | inServer | inFolders
  · exact (mem_scheme inScheme).1
  · rfl
  · rfl
  · rfl
  · exact (Target.isPlain_iff.mp (site.plain char inServer)).1
  · exact Target.pathOf_visible site.settled char inFolders

theorem getLast?_text (site : Site) : site.text.getLast?.any (· = '/') = false := by
  have noSlash : ∀ char, isPlain char = true → decide (char = '/') = false := by
    intro char plain
    apply decide_eq_false
    rintro rfl
    cases plain
  rcases List.eq_nil_or_concat site.folders with none | ⟨front, last, some⟩
  · have ends : site.text = (site.scheme ++ [':', '/', '/']) ++ site.server := by
      simp [text, none, pathOf]
    rw [ends]
    exact Text.any_getLast?_append site.server_ne_nil
      (fun char member => noSlash char (site.plain char member)) _
  · have ends : site.text =
        (site.scheme ++ ':' :: '/' :: '/' :: (site.server ++ (pathOf front ++ ['/']))) ++ last := by
      simp [text, some, pathOf]
    have kept : IsFolder last := site.settled last (by simp [some])
    rw [ends]
    exact Text.any_getLast?_append kept.present
      (fun char member => noSlash char (kept.plain char member)) _

theorem text_within (site : Site) {more : List (List Char)}
    (kept : ∀ folder ∈ more, IsFolder folder) :
    (site.within kept).text = site.text ++ pathOf more := by
  simp [text, within, pathOf]

theorem toList_baseOf (site : Site) (slashes : Nat) :
    (Client.baseOf (site.url slashes)).toList = site.text ++ "/api/v1".toList := by
  have all : ∀ char ∈ List.replicate slashes '/', decide (char = '/') = true := by
    intro char member
    exact decide_eq_true (List.eq_of_mem_replicate member)
  have shorn : (site.text ++ List.replicate slashes '/').rdropWhile (· = '/') = site.text := by
    rw [Text.rdropWhile_append_of_all all,
      Text.rdropWhile_eq_self_iff_getLast?.mpr site.getLast?_text]
  rw [Client.baseOf, String.toList_append, String.toList_ofList, url, String.toList_ofList]
  exact congrArg (· ++ "/api/v1".toList) shorn

def asked : List Char → Option (List Char)
  | '?' :: query => some (Target.encodeQuery (query.takeWhile (· ≠ '#')))
  | _ => none

def targetOf (site : Site) (rest : List Char) : Target :=
  { segments := Target.resolve (site.folders.map encodeSegment).reverse
      ((rest.takeWhile (!isMark ·)).splitOnP isSlash)
    query := asked (rest.dropWhile (!isMark ·)) }

theorem ofAddress?_of_tidy (site : Site) {address : String} {rest : List Char}
    (tidied : Target.tidy address.toList = site.text ++ '/' :: rest) :
    Target.ofAddress? address = some (site.targetOf rest) := by
  have schemed : (site.text ++ '/' :: rest).takeWhile (· ≠ ':') = site.scheme := by
    rw [text, List.append_assoc, List.cons_append]
    exact Text.takeWhile_append_cons
      (fun char member => decide_eq_true (mem_scheme member).2) (decide_eq_false (by simp)) _
  have behind : (site.text ++ '/' :: rest).drop site.scheme.length =
      ':' :: '/' :: '/' :: (site.server ++ (pathOf site.folders ++ '/' :: rest)) := by
    rw [text, List.append_assoc, List.drop_left, List.cons_append, List.cons_append,
      List.cons_append, List.append_assoc]
  have placed : ('/' :: '/' :: (site.server ++ (pathOf site.folders ++ '/' :: rest))).dropWhile
      isSlash = site.server ++ (pathOf site.folders ++ '/' :: rest) := by
    rw [List.dropWhile_cons_of_pos rfl, List.dropWhile_cons_of_pos rfl]
    exact Text.dropWhile_of_front (Text.any_head?_append site.server_ne_nil
      (fun char member => Target.not_isSlash_of_isPlain (site.plain char member)) _)
  have served : (site.server ++ (pathOf site.folders ++ '/' :: rest)).takeWhile
      (fun char => !isSlash char && !isMark char) = site.server := by
    obtain ⟨path, starts⟩ := Target.pathOf_append_slash site.folders rest
    rw [starts]
    apply Text.takeWhile_append_cons _ rfl
    intro char member
    have plain := site.plain char member
    rw [Target.not_isSlash_of_isPlain plain, Target.not_isMark_of_isPlain plain]
    rfl
  have unmarked : ∀ char ∈ pathOf site.folders, (!isMark char) = true := fun char member =>
    (Bool.not_eq_true' _).mpr (Target.pathOf_unmarked site.settled char member)
  have walked : (pathOf site.folders ++ '/' :: rest).takeWhile (!isMark ·) =
      pathOf site.folders ++ '/' :: rest.takeWhile (!isMark ·) := by
    rw [List.takeWhile_append_of_pos unmarked, List.takeWhile_cons_of_pos rfl]
  have remains : (pathOf site.folders ++ '/' :: rest).drop
      (pathOf site.folders ++ '/' :: rest.takeWhile (!isMark ·)).length =
        rest.dropWhile (!isMark ·) := by
    have whole : pathOf site.folders ++ '/' :: rest =
        (pathOf site.folders ++ '/' :: rest.takeWhile (!isMark ·)) ++
          rest.dropWhile (!isMark ·) := by
      rw [List.append_assoc, List.cons_append, List.takeWhile_append_dropWhile]
    rw [whole, List.drop_left]
  unfold Target.ofAddress?
  simp only [tidied, schemed, behind, placed, served, List.drop_left, walked, remains, site.web,
    site.accepted, Bool.and_true, if_true, Target.ofPath_pathOf site.settled]
  rfl

end Site

/-! ### Endpoints -/

def Service.next (service : Service) : Delivery := service.script.head?.getD service.standing

theorem Service.received_send (message : Message) (service : Service) :
    (Service.send message service).service.received =
      service.received ++ if service.next = .unreachable then [] else [message] := by
  unfold Service.send Service.next
  cases service.script.head?.getD service.standing with
  | unreachable => exact (List.append_nil service.received).symm
  | dropped => rfl
  | answered response => rfl

inductive Endpoint where
  | fetch
  | start
  | join
  deriving DecidableEq

namespace Endpoint

def method : Endpoint → Method
  | fetch => .get
  | start => .post
  | join => .post

def ending : Endpoint → List (List Char)
  | fetch => []
  | start => ["start".toList]
  | join => ["join".toList]

def received (endpoint : Endpoint) (client : Client) (meeting : String) (service : Service) :
    List Message :=
  match endpoint with
  | fetch => (client.fetch meeting service).service.received
  | start => (client.start meeting service).service.received
  | join => (client.join meeting service).service.received

def path (endpoint : Endpoint) (meeting : String) : String :=
  match endpoint with
  | fetch => "/meetings/" ++ meeting
  | start => "/meetings/" ++ meeting ++ "/start"
  | join => "/meetings/" ++ meeting ++ "/join"

/-- The id loses nothing in the address of the request and has no effect on it: no character ends
the segment or is dropped as a break, the segment does not stand for a way to go, and where the id
comes last, it does not end with space or a control character. -/
structure Keeps (endpoint : Endpoint) (meeting : String) : Prop where
  whole : ∀ char ∈ meeting.toList, endsSegment char = false
  unbroken : ∀ char ∈ meeting.toList, isBreak char = false
  closed : endpoint = .fetch → meeting.toList.getLast?.any isSpaceOrControl = false
  moves : Target.staysHere meeting.toList = false
  advances : Target.goesBack meeting.toList = false

instance (endpoint : Endpoint) (meeting : String) : Decidable (endpoint.Keeps meeting) :=
  decidable_of_iff
    (meeting.toList.any endsSegment = false ∧ meeting.toList.any isBreak = false ∧
      (endpoint = .fetch → meeting.toList.getLast?.any isSpaceOrControl = false) ∧
        Target.staysHere meeting.toList = false ∧ Target.goesBack meeting.toList = false)
    ⟨fun all => ⟨by simpa using all.1, by simpa using all.2.1, all.2.2.1, all.2.2.2.1,
        all.2.2.2.2⟩,
      fun keeps => ⟨by simpa using keeps.whole, by simpa using keeps.unbroken, keeps.closed,
        keeps.moves, keeps.advances⟩⟩

variable {endpoint : Endpoint} {meeting : String}

theorem service_reading {Value : Type} (read : Response → Except Fault Value)
    (call : Call Response) (service : Service) :
    (Client.reading read call service).service = (call service).service := by
  cases served : call service with
  | mk result after journal =>
      simp only [Client.reading, Call.andThen, served]
      cases result with
      | error fault => rfl
      | ok response =>
          dsimp only
          cases read response <;> rfl

theorem received_eq (endpoint : Endpoint) (client : Client) (meeting : String)
    (service : Service) :
    endpoint.received client meeting service =
      (client.send endpoint.method (endpoint.path meeting) service).service.received := by
  cases endpoint <;> exact congrArg Service.received (service_reading _ _ service)

theorem isFolder_of_mem_ending {folder : List Char} (member : folder ∈ endpoint.ending) :
    IsFolder folder := by
  have all : ∀ endpoint : Endpoint, ∀ folder ∈ endpoint.ending, IsFolder folder := by
    intro endpoint
    cases endpoint <;> decide
  exact all endpoint folder member

theorem map_encodeSegment_ending (endpoint : Endpoint) :
    endpoint.ending.map encodeSegment = endpoint.ending := by
  cases endpoint <;> decide

theorem ending_inj {other : Endpoint} (same : endpoint.ending = other.ending) :
    endpoint = other := by
  cases endpoint <;> cases other <;> first | rfl | exact absurd same (by decide)

def keptId (endpoint : Endpoint) (meeting : List Char) : List Char :=
  match endpoint with
  | fetch => (meeting.rdropWhile isSpaceOrControl).filter (!isBreak ·)
  | start | join => meeting.filter (!isBreak ·)

theorem keptId_sublist (endpoint : Endpoint) (meeting : List Char) :
    (endpoint.keptId meeting).Sublist meeting := by
  cases endpoint with
  | fetch =>
      have dropped : meeting.rdropWhile isSpaceOrControl <+: meeting :=
        List.rdropWhile_prefix isSpaceOrControl meeting
      exact List.filter_sublist.trans dropped.sublist
  | start => exact List.filter_sublist
  | join => exact List.filter_sublist

theorem filter_unbroken_iff {meeting : List Char} :
    meeting.filter (!isBreak ·) = meeting ↔ ∀ char ∈ meeting, isBreak char = false := by
  simp

theorem keptId_eq_iff {meeting : List Char} :
    endpoint.keptId meeting = meeting ↔
      (∀ char ∈ meeting, isBreak char = false) ∧
        (endpoint = .fetch → meeting.getLast?.any isSpaceOrControl = false) := by
  cases endpoint with
  | fetch =>
      constructor
      · intro same
        have dropped : meeting.rdropWhile isSpaceOrControl <+: meeting :=
          List.rdropWhile_prefix isSpaceOrControl meeting
        have filtered := List.length_filter_le (!isBreak ·) (meeting.rdropWhile isSpaceOrControl)
        rw [keptId] at same
        rw [same] at filtered
        have undropped := dropped.eq_of_length (Nat.le_antisymm dropped.length_le filtered)
        have closed := Text.getLast?_rdropWhile isSpaceOrControl meeting
        rw [undropped] at same closed
        exact ⟨filter_unbroken_iff.mp same, fun _fetched => closed⟩
      · rintro ⟨unbroken, closed⟩
        rw [keptId, Text.rdropWhile_eq_self_iff_getLast?.mpr (closed rfl)]
        exact filter_unbroken_iff.mpr unbroken
  | start => simp [keptId]
  | join => simp [keptId]

theorem toList_path (endpoint : Endpoint) (meeting : String) :
    (endpoint.path meeting).toList =
      "/meetings/".toList ++ (meeting.toList ++ pathOf endpoint.ending) := by
  cases endpoint <;> simp [path, ending, pathOf]

theorem tidied_ending (endpoint : Endpoint) (meeting : List Char) :
    ((meeting ++ pathOf endpoint.ending).rdropWhile isSpaceOrControl).filter (!isBreak ·) =
      endpoint.keptId meeting ++ pathOf endpoint.ending := by
  have visible : ∀ char ∈ pathOf endpoint.ending, isSpaceOrControl char = false :=
    Target.pathOf_visible fun _folder member => isFolder_of_mem_ending member
  have shielded : pathOf endpoint.ending ≠ [] →
      ((meeting ++ pathOf endpoint.ending).rdropWhile isSpaceOrControl).filter (!isBreak ·) =
        meeting.filter (!isBreak ·) ++ pathOf endpoint.ending := by
    intro present
    have unbroken : (pathOf endpoint.ending).filter (!isBreak ·) = pathOf endpoint.ending :=
      filter_unbroken_iff.mpr fun char member => Target.isBreak_visible (visible char member)
    rw [Text.rdropWhile_eq_self_iff_getLast?.mpr
        (Text.any_getLast?_append present visible meeting), List.filter_append, unbroken]
  cases endpoint with
  | fetch =>
      change ((meeting ++ []).rdropWhile isSpaceOrControl).filter (!isBreak ·) =
        (meeting.rdropWhile isSpaceOrControl).filter (!isBreak ·) ++ []
      rw [List.append_nil, List.append_nil]
  | start => exact shielded (by decide)
  | join => exact shielded (by decide)

end Endpoint

namespace Site

variable {site : Site} {endpoint : Endpoint} {meeting : String}

def meetingFolders : List (List Char) := ["api".toList, "v1".toList, "meetings".toList]

/-- The target that is meant for a meeting. -/
def target (site : Site) (endpoint : Endpoint) (meeting : String) : Target :=
  { segments := site.folders.map encodeSegment ++
      (meetingFolders ++ encodeSegment meeting.toList :: endpoint.ending)
    query := none }

theorem isFolder_of_mem_meetingFolders : ∀ folder ∈ meetingFolders, IsFolder folder := by
  decide

/-- The target that is sent for a meeting. -/
def sentTarget (site : Site) (endpoint : Endpoint) (meeting : String) : Target :=
  (site.within isFolder_of_mem_meetingFolders).targetOf
    (endpoint.keptId meeting.toList ++ pathOf endpoint.ending)

theorem ofAddress?_path (site : Site) (slashes : Nat) (endpoint : Endpoint) (meeting : String) :
    Target.ofAddress? (Client.baseOf (site.url slashes) ++ endpoint.path meeting) =
      some (site.sentTarget endpoint meeting) := by
  have visible : ∀ char ∈ (site.within isFolder_of_mem_meetingFolders).text ++ ['/'],
      isSpaceOrControl char = false := by
    intro char member
    rcases List.mem_append.mp member with inText | slash
    · exact Site.visible _ char inText
    · rw [List.mem_singleton.mp slash]
      rfl
  have present : (site.within isFolder_of_mem_meetingFolders).text ++ ['/'] ≠ [] :=
    List.append_ne_nil_of_right_ne_nil _ (List.cons_ne_nil '/' [])
  have address : (Client.baseOf (site.url slashes) ++ endpoint.path meeting).toList =
      (site.within isFolder_of_mem_meetingFolders).text ++ ['/'] ++
        (meeting.toList ++ pathOf endpoint.ending) := by
    rw [String.toList_append, toList_baseOf, Endpoint.toList_path, text_within]
    simp [meetingFolders, pathOf]
  apply ofAddress?_of_tidy
  rw [address, Target.tidy_append present visible, Endpoint.tidied_ending, List.append_assoc]
  rfl

theorem target_eq (site : Site) (endpoint : Endpoint) (meeting : String) :
    site.target endpoint meeting =
      { segments := ((site.folders ++ meetingFolders).map encodeSegment).reverse.reverse ++
          encodeSegment meeting.toList :: endpoint.ending.map encodeSegment
        query := none } := by
  have ordinary : meetingFolders.map encodeSegment = meetingFolders := by decide
  rw [target, List.reverse_reverse, List.map_append, ordinary,
    Endpoint.map_encodeSegment_ending, List.append_assoc]

theorem sentTarget_of_whole (whole : ∀ char ∈ meeting.toList, endsSegment char = false) :
    site.sentTarget endpoint meeting =
      { segments := Target.resolve
          ((site.folders ++ meetingFolders).map encodeSegment).reverse
          (endpoint.keptId meeting.toList :: endpoint.ending)
        query := none } := by
  have uncut : ∀ char ∈ endpoint.keptId meeting.toList,
      isSlash char = false ∧ isMark char = false := fun char member =>
    Bool.or_eq_false_iff.mp (whole char ((endpoint.keptId_sublist _).subset member))
  have unmarked : ∀ char ∈ endpoint.keptId meeting.toList ++ pathOf endpoint.ending,
      (!isMark char) = true := by
    intro char member
    rcases List.mem_append.mp member with inId | inEnding
    · exact (Bool.not_eq_true' _).mpr (uncut char inId).2
    · exact (Bool.not_eq_true' _).mpr (Target.pathOf_unmarked
        (fun _folder among => Endpoint.isFolder_of_mem_ending among) char inEnding)
  have nothing : [].splitOnP isSlash = [[]] := List.splitOnP_nil
  have pieced := Target.splitOnP_append_pathOf (fun char member => (uncut char member).1)
    (fun _folder member => endpoint.isFolder_of_mem_ending member) nothing
  rw [List.append_nil, List.append_nil] at pieced
  rw [sentTarget, targetOf, List.takeWhile_eq_self_iff.mpr unmarked,
    List.dropWhile_eq_nil_iff.mpr unmarked, pieced]
  rfl

theorem whole_of_sentTarget
    (same : site.sentTarget endpoint meeting = site.target endpoint meeting) :
    ∀ char ∈ meeting.toList, endsSegment char = false := by
  have settled : ∀ segment ∈ ((site.folders ++ meetingFolders).map encodeSegment).reverse,
      ∀ char ∈ segment, endsSegment char = false := by
    intro segment member
    obtain ⟨folder, among, rfl⟩ := List.mem_map.mp (List.mem_reverse.mp member)
    have kept := (site.within isFolder_of_mem_meetingFolders).settled folder among
    exact Target.encodeSegment_whole_iff.mpr fun char held =>
      (Target.isPlain_iff.mp (kept.plain char held)).2
  have unmarked : ∀ char ∈ (endpoint.keptId meeting.toList ++ pathOf endpoint.ending).takeWhile
      (!isMark ·), isMark char = false := by
    intro char member
    have passed := List.mem_takeWhile_imp member
    exact (Bool.not_eq_true' _).mp passed
  have written : encodeSegment meeting.toList ∈ (site.sentTarget endpoint meeting).segments := by
    rw [same, target]
    simp
  exact Target.encodeSegment_whole_iff.mp (Target.whole_of_mem_resolve settled unmarked written)

/-- The target that is sent is the one that is meant exactly if the id is kept. -/
theorem sentTarget_eq_iff :
    site.sentTarget endpoint meeting = site.target endpoint meeting ↔ endpoint.Keeps meeting := by
  have deep : ((site.folders ++ meetingFolders).map encodeSegment).reverse ≠ [] := by
    simp [meetingFolders]
  have folders : ∀ folder ∈ endpoint.ending, IsFolder folder := fun _folder member =>
    Endpoint.isFolder_of_mem_ending member
  have kept := Target.resolve_keeps_iff deep folders (endpoint.keptId_sublist meeting.toList)
  constructor
  · intro same
    have whole := whole_of_sentTarget same
    rw [sentTarget_of_whole whole, target_eq] at same
    obtain ⟨all, moves, advances⟩ := kept.mp (congrArg Target.segments same)
    obtain ⟨unbroken, closed⟩ := Endpoint.keptId_eq_iff.mp all
    exact ⟨whole, unbroken, closed, moves, advances⟩
  · intro keeps
    have all := Endpoint.keptId_eq_iff.mpr ⟨keeps.unbroken, keeps.closed⟩
    rw [sentTarget_of_whole keeps.whole, target_eq]
    rw [kept.mpr ⟨all, keeps.moves, keeps.advances⟩]

def message (site : Site) (token? : Option String) (endpoint : Endpoint) (meeting : String) :
    Message :=
  { method := endpoint.method
    target := site.sentTarget endpoint meeting
    authorization := token?.map ("Bearer " ++ ·) }

theorem received_of_sendable (site : Site) (slashes : Nat) {token? : Option String}
    (sendable : token?.all Client.canSend = true) (endpoint : Endpoint) (meeting : String)
    (service : Service) :
    endpoint.received (Client.ofUrl (site.url slashes) token?) meeting service =
      service.received ++
        if service.next = .unreachable then [] else [site.message token? endpoint meeting] := by
  have built : (Client.ofUrl (site.url slashes) token?).message? endpoint.method
      (endpoint.path meeting) = some (site.message token? endpoint meeting) := by
    rw [Client.message?, Client.ofUrl, ofAddress?_path, Option.bind_eq_bind, Option.bind_some,
      if_pos sendable]
    rfl
  rw [Endpoint.received_eq, Client.send, built]
  exact Service.received_send _ service

theorem target_inj {other : Endpoint} {another : String}
    (same : site.target endpoint meeting = site.target other another) :
    endpoint = other ∧ encodeSegment meeting.toList = encodeSegment another.toList := by
  have behind := List.append_cancel_left
    (List.append_cancel_left (congrArg Target.segments same))
  obtain ⟨written, ending⟩ := List.cons.inj behind
  exact ⟨Endpoint.ending_inj ending, written⟩

end Site

/-- At an ordinary address, a client with a token that can be sent makes one request for each
endpoint and meeting, which a service receives if it gets through. It has the method of the
endpoint, and exactly for the ids that are kept its target consists of the folders of the address,
those of all meetings, one segment for the id and the ending of the endpoint. Requests for ids that
are kept have the same target only if they are for the same endpoint and the ids spell the same
bytes, so that the ids are equal if there is no percent sign in them. -/
theorem kept_meetings_have_their_own_endpoints (site : Site) (slashes : Nat)
    {token? : Option String} (sendable : token?.all Client.canSend = true) :
    ∃ request : Endpoint → String → Message,
      (∀ endpoint meeting,
        (∀ service,
          endpoint.received (Client.ofUrl (site.url slashes) token?) meeting service =
            service.received ++
              if service.next = .unreachable then [] else [request endpoint meeting]) ∧
        (request endpoint meeting).method = endpoint.method ∧
        ((request endpoint meeting).target = site.target endpoint meeting ↔
          endpoint.Keeps meeting)) ∧
      ∀ endpoint meeting other another,
        endpoint.Keeps meeting → other.Keeps another →
          (request endpoint meeting).target = (request other another).target →
            endpoint = other ∧ spelledBytes meeting.toList = spelledBytes another.toList ∧
              ('%' ∉ meeting.toList → '%' ∉ another.toList → meeting = another) := by
  refine ⟨site.message token?, ?_, ?_⟩
  · intro endpoint meeting
    exact ⟨site.received_of_sendable slashes sendable endpoint meeting, rfl,
      Site.sentTarget_eq_iff⟩
  · intro endpoint meeting other another keeps keepsOther same
    have meant : site.target endpoint meeting = site.target other another :=
      (Site.sentTarget_eq_iff.mpr keeps).symm.trans
        (same.trans (Site.sentTarget_eq_iff.mpr keepsOther))
    obtain ⟨together, written⟩ := Site.target_inj meant
    refine ⟨together, ?_, ?_⟩
    · rw [← Target.spelledBytes_encodeSegment, written, Target.spelledBytes_encodeSegment]
    · intro unsigned unsignedOther
      exact String.toList_inj.mp (Target.encodeSegment_inj unsigned unsignedOther written)

example : ¬Endpoint.join.Keeps ".%2E" := by decide

def localSite : Site :=
  { scheme := "http".toList
    server := "localhost:8080".toList
    folders := []
    web := by decide
    accepted := by decide
    plain := List.all_eq_true.mp (by decide)
    settled := List.forall_mem_nil _ }

def willing : Service :=
  { script := [], standing := .answered { status := 204, body := "", truncated := false }
    received := [] }

theorem meeting_with_blanks_is_kept :
    (none : Option String).all Client.canSend = true ∧ Endpoint.join.Keeps " m 1" ∧
      ∃ message, Endpoint.join.received (Client.ofUrl "http://localhost:8080//" none) " m 1"
          willing = [message] ∧ message.method = .post ∧
        message.target.text = "/api/v1/meetings/%20m%201/join" := by
  have keeps : Endpoint.join.Keeps " m 1" := by decide
  have sendable : (none : Option String).all Client.canSend = true := rfl
  obtain ⟨request, single, _pairs⟩ :=
    kept_meetings_have_their_own_endpoints localSite 2 sendable
  obtain ⟨received, method, target⟩ := single .join " m 1"
  refine ⟨sendable, keeps, request .join " m 1", received willing, method, ?_⟩
  rw [target.mpr keeps]
  decide

def startRequest : Message :=
  { method := .post
    target :=
      { segments := ["api", "v1", "meetings", "m-1", "start"].map String.toList
        query := none }
    authorization := none }

/-- Whoever joins the first of these meetings starts the second, and of the last two meetings one is
fetched for the other. -/
theorem cut_meeting_is_started :
    Endpoint.join.received (Client.ofUrl "http://localhost:8080" none) "m-1/start#" willing =
        [startRequest] ∧
      Endpoint.start.received (Client.ofUrl "http://localhost:8080" none) "m-1" willing =
        [startRequest] ∧
      Endpoint.fetch.received (Client.ofUrl "http://localhost:8080" none) "m 1" willing =
        Endpoint.fetch.received (Client.ofUrl "http://localhost:8080" none) "m%201" willing := by
  decide +kernel

end MeetingRoom.Meeting
