import Kernmux.Cli.ArtifactIds
import Kernmux.Cli.CommandRequests
import Kernmux.Cli.CpuLists

/-!
# Kernmux.Cli.CommandsSound

**Every command is a request that the daemon understands.** The command line and the
daemon have a grammar each: the parsers of the command line go by words, the routers of
the daemon by methods and paths. `Means` is what the words mean. Whatever the command line
accepts means something, and is sent as the request of that command
(`asks_of_parseCommand`); how the daemon reads such a request is known
(`Kernmux.Cli.CommandRequests`).
-/

namespace Kernmux.Cli

open Api.V1 Daemon Daemon.HostApi Library

/-! ### What the words mean -/

/-- The meaning of the words behind the global options. -/
inductive Means : List String → Command → Prop
  | host : Means ["host", "show"] .host
  | preflight : Means ["host", "preflight"] .preflight
  | pool : Means ["pool", "show"] .pool
  | setPool {tail mutation} (h : setPool tail = .ok mutation) :
      Means ("pool" :: "set" :: tail) (.setPool mutation)
  | releasePool {tail mutation} (h : releasePool tail = .ok mutation) :
      Means ("pool" :: "release" :: tail) (.setPool mutation)
  | instances : Means ["instance", "list"] .instances
  | «instance» {word} {id : UInt32} (h : parseUnsigned (2 ^ 32) word = some id.toNat) :
      Means ["instance", "show", word] (.instance ⟨id⟩)
  | create {tail mutation} (h : createInstance tail = .ok mutation) :
      Means ("instance" :: "create" :: tail) (.create mutation)
  | update {tail id mutation} (h : updateInstance tail = .ok (id, mutation)) :
      Means ("instance" :: "update" :: tail) (.update ⟨id⟩ mutation)
  | load {tail id mutation} (h : loadInstance tail = .ok (id, mutation)) :
      Means ("instance" :: "load" :: tail) (.load ⟨id⟩ mutation)
  | loadImage {tail id mutation} (h : loadImage tail = .ok (id, mutation)) :
      Means ("instance" :: "load-image" :: tail) (.loadImage ⟨id⟩ mutation)
  | start {tail id mutation} (h : changeInstance tail = .ok (id, mutation)) :
      Means ("instance" :: "start" :: tail) (.start ⟨id⟩ mutation)
  | unload {tail id mutation} (h : changeInstance tail = .ok (id, mutation)) :
      Means ("instance" :: "unload" :: tail) (.unload ⟨id⟩ mutation)
  | delete {tail id mutation} (h : changeInstance tail = .ok (id, mutation)) :
      Means ("instance" :: "delete" :: tail) (.delete ⟨id⟩ mutation)
  | stop {tail id mutation} (h : stopInstance tail = .ok (id, mutation)) :
      Means ("instance" :: "stop" :: tail) (.stop ⟨id⟩ mutation)
  | images : Means ["image", "list"] .images
  | image (kind : ArtifactKind) (boot : kind ≠ .osImage) (id : ArtifactId) :
      Means ["image", "show", kind.directory, id.value] (.image kind boot id)
  | importImage {tail mutation} (h : importImage tail = .ok mutation) :
      Means ("image" :: "import" :: tail) (.importImage mutation)
  | osImages : Means ["os-image", "list"] .osImages
  | osImage (id : ArtifactId) : Means ["os-image", "show", id.value] (.osImage id)
  | importOsImage {tail mutation} (h : importOsImage tail = .ok mutation) :
      Means ("os-image" :: "import" :: tail) (.importOsImage mutation)
  | storage : Means ["storage", "list"] .storage
  | operations : Means ["operation", "list"] .operations
  | operation (id : Token) : Means ["operation", "show", id.value] (.operation id)
  | cancel (id : Token) : Means ["operation", "cancel", id.value] (.cancel id)
  | events : Means ["events"] (.events ⟨0⟩)
  | eventsAfter {word} {after : UInt64} (h : parseUnsigned (2 ^ 64) word = some after.toNat) :
      Means ["events", "--after", word] (.events ⟨after⟩)

/-- The class that the words ask for: `show`, `list`, `preflight` and `events` read, `import`
administers images, and all other actions change something. -/
def classOf : List String → RequestClass
  | "events" :: _ | _ :: "show" :: _ | _ :: "list" :: _ | _ :: "preflight" :: _ => .readOnly
  | "image" :: "import" :: _ | "os-image" :: "import" :: _ => .administration
  | _ => .mutation

theorem Means.requestClass_eq {words : List String} {command : Command} (h : Means words command) :
    command.route.requestClass = classOf words := by
  cases h <;> rfl

/-- The options that stand alone. -/
def flagWords : List String := ["dry-run", "force"]

/-- How the words behind an action are arranged: plain words, the flags, and the other
options with a value behind each. The plain words and the values are kept, in their order. -/
inductive Arranged : List String → List String → List (String × String) → Prop
  | nil : Arranged [] [] []
  | plain {word words plains values} (h : ∀ name, word ≠ "--" ++ name)
      (rest : Arranged words plains values) : Arranged (word :: words) (word :: plains) values
  | flag {name words plains values} (h : name ∈ flagWords) (rest : Arranged words plains values) :
      Arranged (("--" ++ name) :: words) plains values
  | value {name word words plains values} (h : name ∉ flagWords)
      (rest : Arranged words plains values) :
      Arranged (("--" ++ name) :: word :: words) plains ((name, word) :: values)

/-- The instance is given by its number: the value of `--id` where an instance is created, and
the only plain word behind any other action. -/
inductive Given : List String → InstanceId → Prop
  | create {words plains values word id} (arranged : Arranged words plains values)
      (value : values.lookup "id" = some word)
      (number : parseUnsigned (2 ^ 32) word = some id.val.toNat) :
      Given ("instance" :: "create" :: words) id
  | plain {action words values word id} (other : action ≠ "create")
      (arranged : Arranged words [word] values)
      (number : parseUnsigned (2 ^ 32) word = some id.val.toNat) :
      Given ("instance" :: action :: words) id

/-! ### Options -/

namespace Options

variable {valueNames flagNames args : List String} {result options : Options}

/-- What the loop takes in is what the arguments are arranged as. -/
theorem arranged_of_parseFrom (hvalues : ∀ name ∈ valueNames, name ∉ flagWords)
    (hflags : flagNames ⊆ flagWords)
    (h : parseFrom valueNames flagNames result args = .ok options) :
    ∃ plains values, Arranged args plains values ∧
      options.positionals = result.positionals ++ plains ∧
      options.values = result.values ++ values := by
  fun_induction parseFrom valueNames flagNames result args with
  | case1 =>
      cases h
      exact ⟨[], [], .nil, by simp⟩
  | case2 result argument rest hplain ih =>
      obtain ⟨plains, values, harranged, hadded, hkept⟩ := ih h
      refine ⟨argument :: plains, values, .plain ?_ harranged, ?_, hkept⟩
      · rintro name rfl
        rw [stripPrefix_append] at hplain
        cases hplain
      · rw [hadded, List.append_assoc, List.singleton_append]
  | case6 result argument name hname hknown value rest hsome hnew ih =>
      obtain ⟨plains, values, harranged, hadded, hkept⟩ := ih h
      obtain rfl := eq_append_of_stripPrefix hname
      refine ⟨plains, (name, value) :: values, .value (hvalues name hknown) harranged, hadded, ?_⟩
      rw [hkept, List.append_assoc, List.singleton_append]
  | case8 result argument rest name hname hvalue hflag hnew ih =>
      obtain ⟨plains, values, harranged, hadded, hkept⟩ := ih h
      obtain rfl := eq_append_of_stripPrefix hname
      exact ⟨plains, values, .flag (hflags hflag) harranged, hadded, hkept⟩
  | case3 | case4 | case5 | case7 | case9 => cases h

/-- The options are the arguments, sorted. -/
theorem arranged_of_parse (hvalues : ∀ name ∈ valueNames, name ∉ flagWords)
    (hflags : flagNames ⊆ flagWords) (h : parse args valueNames flagNames = .ok options) :
    Arranged args options.positionals options.values := by
  obtain ⟨plains, values, harranged, hplains, hkept⟩ := arranged_of_parseFrom hvalues hflags h
  rw [hplains, hkept]
  exact harranged

theorem positionals_of_onePositional {label word : String}
    (h : options.onePositional label = .ok word) : options.positionals = [word] := by
  unfold onePositional at h
  split at h
  · case h_1 positional hone =>
      cases h
      exact hone
  · cases h

/-- An argument that is no option stays. -/
theorem positionals_ne_nil {name argument : String} (hname : name ∉ flagWords)
    (h : parseFrom [name] [] { result with positionals := result.positionals ++ [argument] } args =
      .ok options) : options.positionals ≠ [] := by
  have hvalues : ∀ found ∈ [name], found ∉ flagWords := fun found hfound =>
    List.mem_singleton.mp hfound ▸ hname
  obtain ⟨added, -, -, hadded, -⟩ := arranged_of_parseFrom hvalues (List.nil_subset _) h
  rw [hadded]
  simp

/-- Nothing follows an option that is the only one. -/
theorem parseFrom_of_isSome {name : String} (hname : name ∉ flagWords)
    (h : parseFrom [name] [] result args = .ok options)
    (hplain : options.positionals = []) (hvalue : (result.value name).isSome = true) :
    args = [] ∧ options = result := by
  revert h
  fun_cases parseFrom [name] [] result args with
  | case1 => exact fun h => ⟨rfl, (Except.ok.inj h).symm⟩
  | case2 => exact fun h => absurd hplain (positionals_ne_nil hname h)
  | case6 argument found hfound hknown value rest hsome hnew =>
      obtain rfl := List.mem_singleton.mp hknown
      exact absurd hvalue hnew
  | case8 argument rest found hfound hother hflag => exact absurd hflag List.not_mem_nil
  | case3 | case4 | case5 | case7 | case9 => exact fun h => absurd h (by simp [refuse])

/-- A single option is there with its value, or nothing is. -/
theorem parse_single {name : String} (hname : name ∉ flagWords)
    (h : parse args [name] [] = .ok options) (hplain : options.positionals = []) :
    args = [] ∧ options.value name = none ∨
      ∃ value, args = ["--" ++ name, value] ∧ options.value name = some value := by
  revert h
  unfold parse
  fun_cases parseFrom [name] [] ⟨[], [], []⟩ args with
  | case1 =>
      intro h
      cases h
      exact .inl ⟨rfl, rfl⟩
  | case2 => exact fun h => absurd hplain (positionals_ne_nil hname h)
  | case6 argument found hfound hknown value rest hsome hnew =>
      intro h
      obtain rfl := List.mem_singleton.mp hknown
      have hvalue : (Options.mk [] [(found, value)] []).value found = some value := by
        simp [Options.value]
      obtain ⟨rfl, rfl⟩ := parseFrom_of_isSome hname h hplain (Option.isSome_of_eq_some hvalue)
      exact .inr ⟨value, by rw [eq_append_of_stripPrefix hfound], hvalue⟩
  | case8 argument rest found hfound hother hflag => exact absurd hflag List.not_mem_nil
  | case3 | case4 | case5 | case7 | case9 => exact fun h => absurd h (by simp [refuse])

end Options

/-! ### Numbers and identities -/

theorem parseUnsigned_of_number {value label : String} {id : UInt32} (h : number value label = .ok id) :
    parseUnsigned (2 ^ 32) value = some id.toNat := by
  obtain ⟨found, hfound, hnumber⟩ := bind_eq_ok.mp h
  have hread := (Option.filter_eq_some_iff.mp (okOr_eq_ok.mp hfound)).1
  obtain rfl := pure_eq_ok.mp hnumber
  rw [hread, UInt32.toNat_ofNat_of_lt' (parseUnsigned_lt hread)]

/-- The only word behind an action is a token. -/
theorem isToken_of_onlyToken {args : List String} {label token : String}
    (h : onlyToken args label = .ok token) : args = [token] ∧ isToken token = true := by
  unfold onlyToken at h
  split at h
  · case h_1 word =>
      split at h
      · case isTrue htoken =>
          cases h
          exact ⟨rfl, htoken⟩
      · cases h
  · cases h

theorem directory_of_imageKind {value path : String} {kind : ImageKind}
    (h : imageKind value = .ok (kind, path)) :
    value = path ∧ ∃ stored : ArtifactKind, stored ≠ .osImage ∧ stored.directory = path := by
  unfold imageKind at h
  split at h
  · cases h
    exact ⟨rfl, .kernel, by decide, rfl⟩
  · cases h
    exact ⟨rfl, .initrd, by decide, rfl⟩
  · cases h

/-! ### Requests -/

section Requests

variable {bodies : RequestBodies} {tail : List String} {request : ApiRequest}

/-- The words mean a command, and this is its request. -/
def Asks (bodies : RequestBodies) (words : List String) (request : ApiRequest) : Prop :=
  ∃ command, Means words command ∧ command.request bodies = some request

/-- A command of which the mutation is read first. -/
theorem asks_of_read {α : Type} {read : CliM α} {words : List String} (command : α → Command)
    (h : (read >>= fun value => jsonRequest (command value).method (command value).target
      ((command value).body bodies)) = .ok request)
    (hmeans : ∀ value, read = .ok value → Means words (command value)) :
    Asks bodies words request := by
  obtain ⟨value, hread, h⟩ := bind_eq_ok.mp h
  obtain ⟨body, hbody, hrequest⟩ := bind_eq_ok.mp h
  obtain rfl := pure_eq_ok.mp hrequest
  exact ⟨command value, hmeans value hread,
    Option.map_eq_some_iff.mpr ⟨body, okOr_eq_ok.mp hbody, rfl⟩⟩

theorem asks_of_parseHost (h : parseHost tail = .ok request) :
    Asks bodies ("host" :: tail) request := by
  unfold parseHost at h
  split at h
  · exact ⟨.host, .host, congrArg some (Except.ok.inj h)⟩
  · exact ⟨.preflight, .preflight, congrArg some (Except.ok.inj h)⟩
  · cases h

theorem asks_of_parsePool (h : parsePool bodies tail = .ok request) :
    Asks bodies ("pool" :: tail) request := by
  unfold parsePool at h
  split at h
  · cases h
  · exact ⟨.pool, .pool, congrArg some (Except.ok.inj h)⟩
  · exact asks_of_read .setPool h fun _ => .setPool
  · exact asks_of_read .setPool h fun _ => .releasePool
  · cases h

theorem asks_of_parseInstance (h : parseInstance bodies tail = .ok request) :
    Asks bodies ("instance" :: tail) request := by
  unfold parseInstance at h
  split at h
  · cases h
  · exact ⟨.instances, .instances, congrArg some (Except.ok.inj h)⟩
  · obtain ⟨id, hid, hrequest⟩ := bind_eq_ok.mp h
    obtain ⟨word, hword, hnumber⟩ := bind_eq_ok.mp hid
    obtain ⟨rfl, -⟩ := isToken_of_onlyToken hword
    exact ⟨.instance ⟨id⟩, .instance (parseUnsigned_of_number hnumber),
      congrArg some (pure_eq_ok.mp hrequest)⟩
  · exact asks_of_read .create h fun _ => .create
  · exact asks_of_read (fun (id, mutation) => .update ⟨id⟩ mutation) h fun _ => .update
  · exact asks_of_read (fun (id, mutation) => .load ⟨id⟩ mutation) h fun _ => .load
  · exact asks_of_read (fun (id, mutation) => .loadImage ⟨id⟩ mutation) h fun _ => .loadImage
  · exact asks_of_read (fun (id, mutation) => .start ⟨id⟩ mutation) h fun _ => .start
  · exact asks_of_read (fun (id, mutation) => .unload ⟨id⟩ mutation) h fun _ => .unload
  · exact asks_of_read (fun (id, mutation) => .delete ⟨id⟩ mutation) h fun _ => .delete
  · exact asks_of_read (fun (id, mutation) => .stop ⟨id⟩ mutation) h fun _ => .stop
  · cases h

theorem asks_of_parseImage (h : parseImage bodies tail = .ok request) :
    Asks bodies ("image" :: tail) request := by
  unfold parseImage at h
  split at h
  · cases h
  · exact ⟨.images, .images, congrArg some (Except.ok.inj h)⟩
  · obtain ⟨⟨_, path⟩, hkind, hrest⟩ := bind_eq_ok.mp h
    obtain ⟨value, hvalue, hrequest⟩ := bind_eq_ok.mp hrest
    obtain ⟨rfl, kind, hboot, rfl⟩ := directory_of_imageKind hkind
    obtain ⟨id, hparse, rfl⟩ := artifactId_eq_ok_iff_parse.mp hvalue
    obtain rfl := ArtifactId.value_of_parse hparse
    exact ⟨.image kind hboot id, .image kind hboot id, congrArg some (pure_eq_ok.mp hrequest)⟩
  · cases h
  · exact asks_of_read .importImage h fun _ => .importImage
  · cases h

theorem asks_of_parseOsImage (h : parseOsImage bodies tail = .ok request) :
    Asks bodies ("os-image" :: tail) request := by
  unfold parseOsImage at h
  split at h
  · cases h
  · exact ⟨.osImages, .osImages, congrArg some (Except.ok.inj h)⟩
  · obtain ⟨value, hvalue, hrequest⟩ := bind_eq_ok.mp h
    obtain ⟨id, hparse, rfl⟩ := artifactId_eq_ok_iff_parse.mp hvalue
    obtain rfl := ArtifactId.value_of_parse hparse
    exact ⟨.osImage id, .osImage id, congrArg some (pure_eq_ok.mp hrequest)⟩
  · cases h
  · exact asks_of_read .importOsImage h fun _ => .importOsImage
  · cases h

theorem asks_of_parseStorage (h : parseStorage tail = .ok request) :
    Asks bodies ("storage" :: tail) request := by
  unfold parseStorage at h
  split at h
  · exact ⟨.storage, .storage, congrArg some (Except.ok.inj h)⟩
  · cases h

theorem asks_of_parseOperation (h : parseOperation tail = .ok request) :
    Asks bodies ("operation" :: tail) request := by
  unfold parseOperation at h
  split at h
  · cases h
  · exact ⟨.operations, .operations, congrArg some (Except.ok.inj h)⟩
  · obtain ⟨id, hid, hrequest⟩ := bind_eq_ok.mp h
    obtain ⟨rfl, htoken⟩ := isToken_of_onlyToken hid
    exact ⟨_, .operation ⟨id, htoken⟩, congrArg some (pure_eq_ok.mp hrequest)⟩
  · obtain ⟨id, hid, hrequest⟩ := bind_eq_ok.mp h
    obtain ⟨rfl, htoken⟩ := isToken_of_onlyToken hid
    exact ⟨_, .cancel ⟨id, htoken⟩, congrArg some (pure_eq_ok.mp hrequest)⟩
  · cases h

theorem request_events (after : UInt64) : (Command.events ⟨after⟩).request bodies =
      some (get ("/1.0/events?after=" ++ toString after.toNat)) := by
  have htarget : "/1.0/events" ++ "?" ++ ("after=" ++ toString after.toNat) =
      "/1.0/events?after=" ++ toString after.toNat := by
    rw [← String.append_assoc]
    rfl
  exact congrArg (fun target => some (get target)) htarget

/-- Events are asked for from the beginning, or from the position that is given. -/
theorem asks_of_parseEvents (h : parseEvents tail = .ok request) :
    Asks bodies ("events" :: tail) request := by
  obtain ⟨options, hoptions, hrest⟩ := bind_eq_ok.mp h
  obtain ⟨hplain, hrest⟩ := guard_eq_ok.mp hrest
  have hnone : options.positionals = [] := not_not.mp (rejectIf_eq_ok.mp hplain)
  obtain ⟨rfl, hvalue⟩ | ⟨word, rfl, hvalue⟩ := Options.parse_single (by decide) hoptions hnone
  · rw [hvalue] at hrest
    cases hrest
    exact ⟨_, .events, request_events 0⟩
  · rw [hvalue] at hrest
    obtain ⟨after, hafter, hrequest⟩ := bind_eq_ok.mp hrest
    obtain rfl := pure_eq_ok.mp hrequest
    exact ⟨_, .eventsAfter (of_numberU64_eq_ok hafter), request_events after⟩

/-- What the command line accepts means something, and is sent as its request. -/
theorem asks_of_parseCommand {words : List String} (h : parseCommand bodies words = .ok request) :
    Asks bodies words request := by
  unfold parseCommand at h
  split at h
  · cases h
  · exact asks_of_parseHost h
  · exact asks_of_parsePool h
  · exact asks_of_parseInstance h
  · exact asks_of_parseImage h
  · exact asks_of_parseOsImage h
  · exact asks_of_parseStorage h
  · exact asks_of_parseOperation h
  · exact asks_of_parseEvents h
  · cases h

end Requests

/-! ### The instance that is given -/

section Given

variable {tail : List String} {id : UInt32}

/-- What is read as a number is no option. -/
theorem ne_option_of_parseUnsigned {word : String} {limit found : ℕ}
    (h : parseUnsigned limit word = some found) (name : String) : word ≠ "--" ++ name := by
  rintro rfl
  have hdash := (mem_of_parseUnsigned h).2 '-' (by simp)
  revert hdash
  decide

theorem given_of_positional {action : String} {valueNames flagNames : List String}
    {options : Options} {word label other : String} (hother : action ≠ "create")
    (hvalues : ∀ name ∈ valueNames, name ∉ flagWords) (hflags : flagNames ⊆ flagWords)
    (hparse : Options.parse tail valueNames flagNames = .ok options)
    (hword : options.onePositional label = .ok word) (hnumber : number word other = .ok id) :
    Given ("instance" :: action :: tail) ⟨id⟩ := by
  have harranged := Options.arranged_of_parse hvalues hflags hparse
  rw [Options.positionals_of_onePositional hword] at harranged
  exact .plain hother harranged (parseUnsigned_of_number hnumber)

theorem given_of_createInstance {mutation : CreateInstanceMutation}
    (h : createInstance tail = .ok mutation) :
    Given ("instance" :: "create" :: tail) mutation.id := by
  simp only [createInstance, bind_eq_ok, pure_eq_ok] at h
  obtain ⟨options, hparse, -, -, -, -, -, -, word, hword, found, hnumber, -, -, -, -, -, -, -, -, -, -,
    rfl⟩ := h
  exact .create (Options.arranged_of_parse (by decide) (by decide) hparse) (okOr_eq_ok.mp hword)
    (parseUnsigned_of_number hnumber)

theorem given_of_updateInstance {mutation : UpdateInstanceMutation}
    (h : updateInstance tail = .ok (id, mutation)) :
    Given ("instance" :: "update" :: tail) ⟨id⟩ := by
  simp only [updateInstance, bind_eq_ok, pure_eq_ok, Prod.mk.injEq] at h
  obtain ⟨options, hparse, word, hword, -, -, -, -, -, -, -, -, found, hnumber, -, -, -, -, rfl, -⟩ := h
  exact given_of_positional (by decide) (by decide) (by decide) hparse hword hnumber

theorem given_of_loadInstance {mutation : LoadInstanceMutation}
    (h : loadInstance tail = .ok (id, mutation)) : Given ("instance" :: "load" :: tail) ⟨id⟩ := by
  simp only [loadInstance, bind_eq_ok, pure_eq_ok, Prod.mk.injEq] at h
  obtain ⟨options, hparse, word, hword, found, hnumber, -, -, -, -, -, -, rfl, -⟩ := h
  exact given_of_positional (by decide) (by decide) (by decide) hparse hword hnumber

theorem given_of_loadImage {mutation : LoadManagedImageMutation}
    (h : loadImage tail = .ok (id, mutation)) :
    Given ("instance" :: "load-image" :: tail) ⟨id⟩ := by
  simp only [loadImage, bind_eq_ok, pure_eq_ok, Prod.mk.injEq] at h
  obtain ⟨options, hparse, word, hword, found, hnumber, -, -, -, -, -, -, -, -, -, -, rfl, -⟩ := h
  exact given_of_positional (by decide) (by decide) (by decide) hparse hword hnumber

theorem given_of_changeInstance {action : String} {mutation : InstanceLifecycleMutation}
    (hother : action ≠ "create") (h : changeInstance tail = .ok (id, mutation)) :
    Given ("instance" :: action :: tail) ⟨id⟩ := by
  simp only [changeInstance, bind_eq_ok, pure_eq_ok, Prod.mk.injEq] at h
  obtain ⟨options, hparse, word, hword, found, hnumber, -, -, -, -, rfl, -⟩ := h
  exact given_of_positional hother (by decide) (by decide) hparse hword hnumber

theorem given_of_stopInstance {mutation : StopInstanceMutation}
    (h : stopInstance tail = .ok (id, mutation)) : Given ("instance" :: "stop" :: tail) ⟨id⟩ := by
  simp only [stopInstance, bind_eq_ok, pure_eq_ok, Prod.mk.injEq] at h
  obtain ⟨options, hparse, word, hword, found, hnumber, -, -, -, -, rfl, -⟩ := h
  exact given_of_positional (by decide) (by decide) (by decide) hparse hword hnumber

/-- The instance of a command is the one that its words give. -/
theorem Means.given {words : List String} {command : Command} {id : InstanceId}
    (h : Means words command) (hid : command.instanceId = some id) : Given words id := by
  cases h <;> cases hid
  case «instance» hnumber =>
    exact .plain (by decide) (.plain (ne_option_of_parseUnsigned hnumber) .nil) hnumber
  case create hread => exact given_of_createInstance hread
  case update hread => exact given_of_updateInstance hread
  case load hread => exact given_of_loadInstance hread
  case loadImage hread => exact given_of_loadImage hread
  case start hread | unload hread | delete hread => exact given_of_changeInstance (by decide) hread
  case stop hread => exact given_of_stopInstance hread

end Given

/-! ### Understanding -/

/-- A request as it reaches the host API. -/
def ApiRequest.received (request : ApiRequest) (requestId : String) : LocalRequest where
  method := .ofName request.method
  path := (requestTarget request.path).1
  query := (requestTarget request.path).2
  requestId := some requestId
  body := request.body

/-- The daemon takes a request for the command that the words mean. -/
structure Understood (api : Dispatcher) (words : List String) (command : Command)
    (request : ApiRequest) : Prop where
  means : Means words command
  given : ∀ id, command.instanceId = some id → Given words id
  routed : ∃ route, routeFor (.ofName request.method) (requestTarget request.path).1 = some route ∧
    route.requestClass ≠ .console ∧ route.requestClass = classOf words
  dispatched : ∀ requestId peer, api.dispatch (request.received requestId) peer =
    command.handler api (request.received requestId) peer
  query : command.Positions (requestTarget request.path).2
  body : command.Decodes api.json request.body

theorem understood_of_means {bodies : RequestBodies} {api : Dispatcher} {words : List String}
    {command : Command} {request : ApiRequest} (hjson : RoundTrips bodies api.json)
    (hmeans : Means words command) (h : command.request bodies = some request) :
    Understood api words command request := by
  obtain ⟨body, hbody, rfl⟩ := Option.map_eq_some_iff.mp h
  have htarget := command.requestTarget_target
  have hdecodes := command.decodes_body hjson hbody
  refine ⟨hmeans, fun id => hmeans.given, ⟨command.route, ?_, ?_, hmeans.requestClass_eq⟩, ?_, ?_,
    hdecodes⟩
  · rw [htarget]
    exact routeFor_command command
  · intro hconsole
    cases command <;> cases hconsole
  · intro requestId peer
    refine dispatch_command peer rfl ?_ hdecodes
    rw [ApiRequest.received, htarget]
  · rw [htarget]
    exact command.positions_query

/-- Every command that the command line accepts is a request that the daemon understands. -/
theorem commands_understood {bodies : RequestBodies} {api : Dispatcher} {process next : Process}
    {args : List String} {invocation : Invocation} (hjson : RoundTrips bodies api.json)
    (h : parseInvocation bodies process args = .ok (invocation, next)) :
    ∃ globals words command, parseGlobals ⟨defaultSocket, false, none⟩ args = .ok (globals, words) ∧
      Understood api words command invocation.request := by
  obtain ⟨⟨globals, words⟩, hglobals, hrest⟩ := bind_eq_ok.mp h
  obtain ⟨request, hrequest, hrest⟩ := bind_eq_ok.mp hrest
  obtain ⟨command, hmeans, hcommand⟩ := asks_of_parseCommand hrequest
  have hsame : invocation.request = request := by
    cases hid : globals.requestId with
    | some requestId | none =>
        rw [hid] at hrest
        exact (congrArg (fun result => result.1.request) (pure_eq_ok.mp hrest)).symm
  rw [hsame]
  exact ⟨globals, words, command, hglobals, understood_of_means hjson hmeans hcommand⟩

/-- A serializer that writes a generation as so many bytes, and nothing else. -/
def countedBodies : RequestBodies where
  resourcePool _ := none
  createInstance _ := none
  updateInstance _ := none
  loadInstance _ := none
  loadManagedImage _ := none
  importImage _ := none
  importOsImage _ := none
  instanceLifecycle mutation := some (List.replicate mutation.expectedGeneration.val.toNat 0)
  stopInstance _ := none

/-- A daemon that reads what `countedBodies` writes. -/
def countedApi : Dispatcher where
  json := {
    resourcePool := fun _ => none
    createInstance := fun _ => none
    updateInstance := fun _ => none
    loadInstance := fun _ => none
    loadManagedImage := fun _ => none
    importImage := fun _ => none
    importOsImage := fun _ => none
    instanceLifecycle := fun body => some ⟨⟨.ofNat body.length⟩⟩
    stopInstance := fun _ => none }
  files := ⟨fun _ => none, fun _ => none⟩
  imagePolicy := ⟨[]⟩

theorem roundTrips_counted : RoundTrips countedBodies countedApi.json := by
  have hnone {α : Type} {read : List UInt8 → Option α} : ReadBack (fun _ => none) read := by
    intro value body h
    cases h
  refine ⟨hnone, hnone, hnone, hnone, hnone, hnone, hnone, ?_, hnone⟩
  intro mutation body hbody
  cases hbody
  show some _ = some mutation
  rw [List.length_replicate, UInt64.ofNat_toNat]

theorem commands_understood_start : ∃ invocation next,
    parseInvocation countedBodies ⟨1, 0⟩ ["--pretty", "instance", "start", "7", "--generation", "3"] =
      .ok (invocation, next) ∧
    ∃ globals words command, parseGlobals ⟨defaultSocket, false, none⟩
        ["--pretty", "instance", "start", "7", "--generation", "3"] = .ok (globals, words) ∧
      Understood countedApi words command invocation.request := by
  have hrun : parseInvocation countedBodies ⟨1, 0⟩
      ["--pretty", "instance", "start", "7", "--generation", "3"] =
        .ok (⟨defaultSocket, true, "kernmuxctl-1-0", "POST", "/1.0/instances/7/start", [0, 0, 0]⟩,
          ⟨1, 1⟩) := by decide +kernel
  exact ⟨_, _, hrun, commands_understood roundTrips_counted hrun⟩

end Kernmux.Cli
