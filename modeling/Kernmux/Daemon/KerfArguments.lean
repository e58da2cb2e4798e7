import Kernmux.Daemon.MemoryIsolation
import Kernmux.Library.Arguments

/-!
# Kernmux.Daemon.KerfArguments

**What an argument vector of Kerf says.** The planner writes every accepted
request as a command, the name or the ID of an instance, and options whose marks
are its own. `WellShaped` vectors contain nothing that a text of the request or
of the snapshot could have turned into another option, and a vector can be read
back: on one snapshot two requests with the same vector are the same request.

That rests on what the planner rejects. Names begin with a letter or a digit, so
they are no option; lists are not empty, and their items contain no comma.
-/

namespace Kernmux.Daemon.Lifecycle

open Api.V1 Library OsString LifecycleRequest

variable {mark word : String} {request : LoadRequest} {invocation invocation' : KerfInvocation}
  {required : InstanceState} {given : Bool} {argument : OsString} {inst : Instance}

/-! ### The parts of a vector -/

/-- The first argument for each kind of request. -/
def LifecycleRequest.command : LifecycleRequest → String
  | create _ => "create"
  | update _ => "update"
  | load _ => "load"
  | start _ => "exec"
  | stop _ => "kill"
  | unload _ => "unload"
  | delete _ => "delete"

def commands : List String := ["create", "update", "load", "exec", "kill", "unload", "delete"]

def flags : List String := ["--dry-run", "--force"]

/-- The beginnings of arguments with a value. -/
def marks : List String :=
  ["--id=", "--cpus=", "--memory=", "--devices=", "--kernel=", "--initrd=", "--cmdline="]

/-- An argument after the command: the name of an instance, a flag, or a value after a mark. -/
inductive Expected : OsString → Prop
  | name {name : String} (hvalid : validateName name = .ok ())
      (hhead : (utf8Bytes name).head?.any isAsciiAlphanumeric = true) : Expected (.ofString name)
  | flag {flag : String} (hflag : flag ∈ flags) : Expected (.ofString flag)
  | value {argument : OsString} {mark : String} (hmark : mark ∈ marks)
      (hbegins : argument.Begins mark) : Expected argument

/-- A command and expected arguments. -/
def WellShaped (arguments : List OsString) : Prop :=
  ∃ command rest, arguments = .ofString command :: rest ∧ command ∈ commands ∧
    ∀ argument ∈ rest, Expected argument

theorem expected_name {name : String} (h : validateName name = .ok ()) :
    Expected (.ofString name) := by
  refine .name h ?_
  simp only [validateName, rejectIf_eq_ok, Bool.not_eq_false, Bool.and_eq_true] at h
  exact h.2

theorem expected_option (hmark : mark ∈ marks) (value : String) :
    Expected (option mark value) := .value hmark (begins_ofString mark value)

theorem expected_pathOption (hmark : mark ∈ marks) (value : PathBuf) :
    Expected (pathOption mark value) := .value hmark (begins_append mark value)

/-! ### The vector of each request -/

/-- An argument without a value. -/
def flag (word : String) (given : Bool) : Option OsString :=
  if given then some (.ofString word) else none

/-- The arguments after the name in an update. -/
def updateOptions (request : UpdateRequest) : List (Option OsString) :=
  [request.cpuHardwareIds.map fun cpus => option "--cpus=" (cpuList cpus),
    request.memoryBytes.map fun memory => option "--memory=" (toString memory.toNat),
    request.deviceIds.map fun devices => option "--devices=" (",".intercalate devices),
    flag "--dry-run" request.dryRun]

/-- The arguments after the kernel in a load. -/
def loadOptions (request : LoadRequest) : List (Option OsString) :=
  [request.initrd.map (pathOption "--initrd="), request.cmdline.map (option "--cmdline=")]

variable {snapshot : HostSnapshot}

theorem planLoad_arguments (h : planLoad request snapshot = .ok invocation) :
    invocation.arguments = .ofString "load" :: idOption request.inst.id ::
      pathOption "--kernel=" request.kernel :: optionals (loadOptions request) := by
  rw [planLoad, guard_eq_ok, guard_eq_ok, bind_eq_ok] at h
  obtain ⟨-, -, initrd, hinitrd, hinvocation⟩ := h
  obtain rfl := pure_eq_ok.mp hinvocation
  have harguments : initrd = (request.initrd.map (pathOption "--initrd=")).toList := by
    cases hpath : request.initrd with
    | none =>
        rw [hpath] at hinitrd
        exact (Except.ok.inj hinitrd).symm
    | some path =>
        rw [hpath, loadInitrd, guard_eq_ok, pure_eq_ok] at hinitrd
        exact hinitrd.2.symm
  simp [harguments, loadOptions, optionals]

theorem planStop_arguments {request : StopRequest}
    (h : planStop request snapshot = .ok invocation) :
    invocation.arguments = .ofString "kill" :: idOption request.inst.id ::
      optionals [flag "--force" request.force] := by
  rw [planStop, guard_eq_ok] at h
  obtain rfl := pure_eq_ok.mp h.2
  cases hforce : request.force <;> rfl

theorem planStateCommand_arguments {command : String} {request : InstanceRequest}
    {expected : InstanceState}
    (h : planStateCommand command request snapshot required expected = .ok invocation) :
    invocation.arguments = [.ofString command, idOption request.id] := by
  rw [planStateCommand, guard_eq_ok] at h
  obtain rfl := pure_eq_ok.mp h.2
  rfl

theorem updateInvocation_arguments (request : UpdateRequest) (name : String) :
    (updateInvocation request name).arguments =
      .ofString "update" :: .ofString name :: optionals (updateOptions request) := by
  cases hdry : request.dryRun <;> simp [updateInvocation, updateOptions, optionals, flag, hdry]

/-! ### Vectors are well shaped -/

theorem expected_flag (hword : word ∈ flags)
    (h : flag word given = some argument) : Expected argument := by
  cases given with
  | false => exact absurd h (by simp [flag])
  | true => exact Option.some.inj h ▸ .flag hword

theorem expected_of_mem_updateOptions {request : UpdateRequest}
    (h : argument ∈ optionals (updateOptions request)) : Expected argument := by
  simp only [optionals, updateOptions, List.mem_flatMap, List.mem_cons, List.not_mem_nil, or_false,
    Option.mem_toList] at h
  obtain ⟨item, rfl | rfl | rfl | rfl, hargument⟩ := h
  · obtain ⟨cpus, -, rfl⟩ := Option.map_eq_some_iff.mp hargument
    exact expected_option (by decide) _
  · obtain ⟨memory, -, rfl⟩ := Option.map_eq_some_iff.mp hargument
    exact expected_option (by decide) _
  · obtain ⟨devices, -, rfl⟩ := Option.map_eq_some_iff.mp hargument
    exact expected_option (by decide) _
  · exact expected_flag (by decide) hargument

theorem expected_of_mem_loadOptions
    (h : argument ∈ optionals (loadOptions request)) : Expected argument := by
  simp only [optionals, loadOptions, List.mem_flatMap, List.mem_cons, List.not_mem_nil, or_false,
    Option.mem_toList] at h
  obtain ⟨item, rfl | rfl, hargument⟩ := h
  · obtain ⟨path, -, rfl⟩ := Option.map_eq_some_iff.mp hargument
    exact expected_pathOption (by decide) _
  · obtain ⟨cmdline, -, rfl⟩ := Option.map_eq_some_iff.mp hargument
    exact expected_option (by decide) _

/-- The vector of a request: its command, and arguments that are expected. -/
theorem planRequest_shape {request : LifecycleRequest}
    (h : planRequest snapshot request = .ok invocation) :
    ∃ rest, invocation.arguments = .ofString request.command :: rest ∧
      ∀ argument ∈ rest, Expected argument := by
  have hid : ∀ id, Expected (idOption id) := fun id => expected_option (by decide) _
  cases request with
  | create request =>
      obtain ⟨haccepted, rfl⟩ := planCreate_eq_ok.mp h
      refine ⟨_, rfl, ?_⟩
      intro argument hargument
      simp only [List.mem_cons, List.not_mem_nil, or_false] at hargument
      rcases hargument with rfl | rfl | rfl | rfl
      · exact expected_name haccepted.name_valid
      · exact hid request.id
      · exact expected_option (by decide) _
      · exact expected_option (by decide) _
  | update request =>
      obtain ⟨inst, haccepted, rfl⟩ := planUpdate_eq_ok.mp h
      refine ⟨_, updateInvocation_arguments request inst.name, ?_⟩
      intro argument hargument
      rcases List.mem_cons.mp hargument with rfl | hoption
      · exact expected_name haccepted.name_valid
      · exact expected_of_mem_updateOptions hoption
  | load request =>
      refine ⟨_, planLoad_arguments h, ?_⟩
      intro argument hargument
      simp only [List.mem_cons] at hargument
      rcases hargument with rfl | rfl | hoption
      · exact hid request.inst.id
      · exact expected_pathOption (by decide) _
      · exact expected_of_mem_loadOptions hoption
  | stop request =>
      refine ⟨_, planStop_arguments h, ?_⟩
      intro argument hargument
      rcases List.mem_cons.mp hargument with rfl | hforce
      · exact hid request.inst.id
      · simp only [optionals, List.flatMap_singleton, Option.mem_toList] at hforce
        exact expected_flag (by decide) hforce
  | start request | unload request | delete request =>
      refine ⟨_, planStateCommand_arguments h, ?_⟩
      intro argument hargument
      exact List.mem_singleton.mp hargument ▸ hid request.id

/-! ### Values are read back -/

theorem option_inj {value value' : String} (h : option mark value = option mark value') :
    value = value' := ofString_append_inj h

theorem idOption_inj {id id' : InstanceId} (h : idOption id = idOption id') : id = id' := by
  have hvalue := UInt32.toNat_inj.mp (toString_nat_injective (option_inj h))
  cases id
  cases id'
  exact congrArg InstanceId.mk hvalue

/-- Lists of texts without a comma are read back, unless they are empty. -/
theorem intercalate_inj {items items' : List String} (h : items ≠ []) (h' : items' ≠ [])
    (hcomma : ∀ item ∈ items, ',' ∉ item.toList) (hcomma' : ∀ item ∈ items', ',' ∉ item.toList)
    (heq : ",".intercalate items = ",".intercalate items') : items = items' := by
  have hsingle : "," = String.singleton ',' := rfl
  rw [hsingle] at heq
  rw [← splitText_intercalate h hcomma, heq, splitText_intercalate h' hcomma']

theorem cpuList_inj {cpus cpus' : List UInt32} (h : cpus ≠ []) (h' : cpus' ≠ [])
    (heq : cpuList cpus = cpuList cpus') : cpus = cpus' := by
  have hcomma : ∀ cpus : List UInt32,
      ∀ item ∈ cpus.map fun cpu => toString cpu.toNat, ',' ∉ item.toList := by
    intro cpus item hitem hmem
    obtain ⟨cpu, -, rfl⟩ := List.mem_map.mp hitem
    exact absurd (isDigit_of_mem_toString hmem) (by decide)
  have hitems := intercalate_inj (by simpa using h) (by simpa using h') (hcomma cpus)
    (hcomma cpus') heq
  refine List.map_injective_iff.mpr ?_ hitems
  intro cpu cpu' hcpu
  exact UInt32.toNat_inj.mp (toString_nat_injective hcpu)

/-- The separators of a PCI address are colons and a point; everything else is a digit. -/
theorem comma_not_mem_pciId {value : String} (h : isCanonicalPciId value = true) :
    ',' ∉ value.toList := by
  intro hcomma
  obtain ⟨index, hindex⟩ := List.getElem?_of_mem (mem_utf8Bytes_of_mem (by decide) hcomma)
  simp only [isCanonicalPciId, Bool.and_eq_true, beq_iff_eq, List.all_eq_true] at h
  obtain ⟨⟨⟨⟨-, hbus⟩, hslot⟩, hfunction⟩, hdigits⟩ := h
  have hdigit := hdigits (_, index) (List.mk_mem_zipIdx_iff_getElem?.mpr hindex)
  simp only [Bool.or_eq_true, beq_iff_eq] at hdigit
  rcases hdigit with (((rfl | rfl) | rfl) | hdecimal) | hletter
  · exact absurd (hbus.symm.trans hindex) (by decide)
  · exact absurd (hslot.symm.trans hindex) (by decide)
  · exact absurd (hfunction.symm.trans hindex) (by decide)
  · exact absurd hdecimal (by decide)
  · simp at hletter

theorem validateUpdateDevices_list {devices : List String}
    (h : validateUpdateDevices snapshot inst devices = .ok ()) :
    devices ≠ [] ∧ ∀ device ∈ devices, ',' ∉ device.toList := by
  simp only [validateUpdateDevices, guard_eq_ok, rejectIf_eq_ok, rejectSome_eq_ok,
    List.find?_eq_none] at h
  obtain ⟨hsome, -, hcanonical, -⟩ := h
  refine ⟨hsome, ?_⟩
  intro device hdevice
  exact comma_not_mem_pciId (by simpa using hcanonical device hdevice)

theorem flag_inj {given' : Bool} (h : flag word given = flag word given') : given = given' := by
  cases given <;> cases given' <;> simp_all [flag]

/-! ### Optional arguments are read back -/

theorem begins_of_mem_flag (h : argument ∈ flag word given) : Begins word argument := by
  cases given with
  | false => exact absurd h (by simp [flag])
  | true => exact Option.some.inj h ▸ begins_self word

theorem begins_of_mem_map {α : Type} {value : Option α} {print : α → OsString}
    (hprint : ∀ item, Begins mark (print item))
    (h : argument ∈ value.map print) : Begins mark argument := by
  obtain ⟨item, -, rfl⟩ := Option.map_eq_some_iff.mp h
  exact hprint item

theorem begins_option (mark value : String) : Begins mark (option mark value) :=
  begins_ofString mark value

theorem marked_updateOptions (request : UpdateRequest) :
    Marked ["--cpus=", "--memory=", "--devices=", "--dry-run"] (updateOptions request) :=
  .cons (fun _ => begins_of_mem_map fun _ => begins_option _ _)
    (.cons (fun _ => begins_of_mem_map fun _ => begins_option _ _)
      (.cons (fun _ => begins_of_mem_map fun _ => begins_option _ _)
        (.cons (fun _ => begins_of_mem_flag) .nil)))

theorem marked_loadOptions (request : LoadRequest) :
    Marked ["--initrd=", "--cmdline="] (loadOptions request) :=
  .cons (fun _ => begins_of_mem_map fun path => begins_append _ path)
    (.cons (fun _ => begins_of_mem_map fun _ => begins_option _ _) .nil)

/-- A printed optional value is read back where printing can be read back. -/
theorem map_inj_of {α β : Type} {value value' : Option α} {print : α → β}
    (hprint : ∀ item ∈ value, ∀ item' ∈ value', print item = print item' → item = item')
    (h : value.map print = value'.map print) : value = value' := by
  cases value with
  | none => exact (Option.map_eq_none_iff.mp h.symm).symm
  | some item =>
      obtain ⟨item', hitem', heq⟩ := Option.map_eq_some_iff.mp h.symm
      rw [hitem', hprint item rfl item' hitem' heq.symm]

theorem updateOptions_inj {request request' : UpdateRequest} {inst' : Instance}
    (h : UpdateAccepted request snapshot inst) (h' : UpdateAccepted request' snapshot inst')
    (heq : optionals (updateOptions request) = optionals (updateOptions request')) :
    request.cpuHardwareIds = request'.cpuHardwareIds ∧
      request.memoryBytes = request'.memoryBytes ∧ request.deviceIds = request'.deviceIds ∧
      request.dryRun = request'.dryRun := by
  have hoptions := optionals_inj (by decide) (marked_updateOptions request)
    (marked_updateOptions request') heq
  simp only [updateOptions, List.cons.injEq, and_true] at hoptions
  obtain ⟨hcpus, hmemory, hdevices, hdry⟩ := hoptions
  refine ⟨map_inj_of ?_ hcpus, map_inj_of ?_ hmemory, map_inj_of ?_ hdevices, flag_inj hdry⟩
  · intro cpus hsome cpus' hsome' hprint
    exact cpuList_inj (h.cpus cpus hsome).valid.1 (h'.cpus cpus' hsome').valid.1 (option_inj hprint)
  · intro memory _ memory' _ hprint
    exact UInt64.toNat_inj.mp (toString_nat_injective (option_inj hprint))
  · intro devices hsome devices' hsome' hprint
    obtain ⟨hne, hcomma⟩ := validateUpdateDevices_list (h.devices devices hsome)
    obtain ⟨hne', hcomma'⟩ := validateUpdateDevices_list (h'.devices devices' hsome')
    exact intercalate_inj hne hne' hcomma hcomma' (option_inj hprint)

theorem loadOptions_inj {request' : LoadRequest}
    (heq : optionals (loadOptions request) = optionals (loadOptions request')) :
    request.initrd = request'.initrd ∧ request.cmdline = request'.cmdline := by
  have hoptions := optionals_inj (by decide) (marked_loadOptions request)
    (marked_loadOptions request') heq
  simp only [loadOptions, List.cons.injEq, and_true] at hoptions
  refine ⟨map_inj_of ?_ hoptions.1, map_inj_of ?_ hoptions.2⟩
  · intro path _ path' _ hprint
    exact append_ofString_inj hprint
  · intro cmdline _ cmdline' _ hprint
    exact option_inj hprint

/-! ### Requests are read back -/

/-- Names are distinct, so the instance that an update names is known. -/
theorem id_of_name (hnames : (snapshot.instances.map (·.name)).Nodup) {id id' : InstanceId}
    {required' : InstanceState} {inst' : Instance}
    (h : requireInstance snapshot id required = .ok inst)
    (h' : requireInstance snapshot id' required' = .ok inst') (hname : inst.name = inst'.name) :
    id = id' := by
  obtain ⟨-, hfind, -⟩ := requireInstance_eq_ok.mp h
  obtain ⟨-, hfind', -⟩ := requireInstance_eq_ok.mp h'
  have hinst : inst = inst' := List.inj_on_of_nodup_map hnames (List.mem_of_find?_eq_some hfind)
    (List.mem_of_find?_eq_some hfind') hname
  have hid : inst.id = id := by simpa using List.find?_some hfind
  have hid' : inst'.id = id' := by simpa using List.find?_some hfind'
  rw [← hid, ← hid', hinst]

/-- Two requests of the same snapshot and instance are the same part of a request. -/
theorem instanceRequest_eq {request request' : InstanceRequest}
    (hgeneration : request.expectedGeneration = request'.expectedGeneration)
    (hid : request.id = request'.id) : request = request' := by
  cases request
  cases request'
  simp_all

section

variable (heq : invocation.arguments = invocation'.arguments)

include heq

theorem planStateCommand_inj {command command' : String} {request request' : InstanceRequest}
    {required' expected expected' : InstanceState}
    (h : planStateCommand command request snapshot required expected = .ok invocation)
    (h' : planStateCommand command' request' snapshot required' expected' = .ok invocation')
    (hgeneration : request.expectedGeneration = request'.expectedGeneration) :
    request = request' := by
  rw [planStateCommand_arguments h, planStateCommand_arguments h'] at heq
  simp only [List.cons.injEq, and_true] at heq
  exact instanceRequest_eq hgeneration (idOption_inj heq.2)

theorem planCreate_inj {request request' : CreateRequest}
    (h : planCreate request snapshot = .ok invocation)
    (h' : planCreate request' snapshot = .ok invocation')
    (hgeneration : request.expectedGeneration = request'.expectedGeneration) :
    request = request' := by
  obtain ⟨haccepted, rfl⟩ := planCreate_eq_ok.mp h
  obtain ⟨haccepted', rfl⟩ := planCreate_eq_ok.mp h'
  simp only [createInvocation, List.cons.injEq, and_true, true_and] at heq
  obtain ⟨hname, hid, hcpus, hmemory⟩ := heq
  have hname := ofString_injective hname
  have hid := idOption_inj hid
  have hcpus := cpuList_inj haccepted.cpus_valid.1 haccepted'.cpus_valid.1 (option_inj hcpus)
  have hmemory := UInt64.toNat_inj.mp (toString_nat_injective (option_inj hmemory))
  cases request
  cases request'
  simp_all

theorem planUpdate_inj (hnames : (snapshot.instances.map (·.name)).Nodup)
    {request request' : UpdateRequest} (h : planUpdate request snapshot = .ok invocation)
    (h' : planUpdate request' snapshot = .ok invocation')
    (hgeneration : request.inst.expectedGeneration = request'.inst.expectedGeneration) :
    request = request' := by
  obtain ⟨inst, haccepted, rfl⟩ := planUpdate_eq_ok.mp h
  obtain ⟨inst', haccepted', rfl⟩ := planUpdate_eq_ok.mp h'
  simp only [updateInvocation_arguments, List.cons.injEq, true_and] at heq
  obtain ⟨hname, hoptions⟩ := heq
  have hid := id_of_name hnames haccepted.found haccepted'.found (ofString_injective hname)
  have hinst := instanceRequest_eq hgeneration hid
  obtain ⟨hcpus, hmemory, hdevices, hdry⟩ := updateOptions_inj haccepted haccepted' hoptions
  cases request
  cases request'
  simp_all

theorem planLoad_inj {request' : LoadRequest} (h : planLoad request snapshot = .ok invocation)
    (h' : planLoad request' snapshot = .ok invocation')
    (hgeneration : request.inst.expectedGeneration = request'.inst.expectedGeneration) :
    request = request' := by
  rw [planLoad_arguments h, planLoad_arguments h'] at heq
  simp only [List.cons.injEq, true_and] at heq
  obtain ⟨hid, hkernel, hoptions⟩ := heq
  have hinst := instanceRequest_eq hgeneration (idOption_inj hid)
  have hkernel := append_ofString_inj hkernel
  obtain ⟨hinitrd, hcmdline⟩ := loadOptions_inj hoptions
  cases request
  cases request'
  simp_all

theorem planStop_inj {request request' : StopRequest}
    (h : planStop request snapshot = .ok invocation)
    (h' : planStop request' snapshot = .ok invocation')
    (hgeneration : request.inst.expectedGeneration = request'.inst.expectedGeneration) :
    request = request' := by
  rw [planStop_arguments h, planStop_arguments h'] at heq
  simp only [List.cons.injEq, true_and] at heq
  obtain ⟨hid, hoptions⟩ := heq
  have hinst := instanceRequest_eq hgeneration (idOption_inj hid)
  have hmarked : ∀ given, Marked ["--force"] [flag "--force" given] :=
    fun _ => .cons (fun _ => begins_of_mem_flag) .nil
  have hflag := optionals_inj (by decide) (hmarked request.force) (hmarked request'.force) hoptions
  have hforce := flag_inj (List.head_eq_of_cons_eq hflag)
  cases request
  cases request'
  simp_all

/-- On one snapshot a vector of arguments comes from one request only. -/
theorem planRequest_inj (hnames : (snapshot.instances.map (·.name)).Nodup)
    {request request' : LifecycleRequest} (h : planRequest snapshot request = .ok invocation)
    (h' : planRequest snapshot request' = .ok invocation')
    (hgeneration : request.expectedGeneration = request'.expectedGeneration) :
    request = request' := by
  obtain ⟨rest, hrest, -⟩ := planRequest_shape h
  obtain ⟨rest', hrest', -⟩ := planRequest_shape h'
  have hcommand : request.command = request'.command :=
    ofString_injective (List.head_eq_of_cons_eq (hrest.symm.trans (heq.trans hrest')))
  -- no two kinds have the same command
  cases request <;> cases request' <;> try (simp [command] at hcommand; done)
  case create.create => rw [planCreate_inj heq h h' hgeneration]
  case update.update => rw [planUpdate_inj heq hnames h h' hgeneration]
  case load.load => rw [planLoad_inj heq h h' hgeneration]
  case stop.stop => rw [planStop_inj heq h h' hgeneration]
  all_goals rw [planStateCommand_inj heq h h' hgeneration]

end

/-- Kerf is never told anything but what was asked for: a vector consists of the planner's own
words and marks and of valid names, and no two requests have the same one. -/
theorem arguments_unambiguous (snapshot : HostSnapshot)
    (hnames : (snapshot.instances.map (·.name)).Nodup) :
    (∀ request invocation, plan request snapshot = .ok invocation →
      WellShaped invocation.arguments) ∧
    ∀ request request' invocation invocation', plan request snapshot = .ok invocation →
      plan request' snapshot = .ok invocation' →
      invocation.arguments = invocation'.arguments → request = request' := by
  constructor
  · intro request invocation hplan
    obtain ⟨rest, harguments, hexpected⟩ := planRequest_shape (plan_eq_ok.mp hplan).2
    refine ⟨request.command, rest, harguments, ?_, hexpected⟩
    cases request <;> simp [commands, command]
  · intro request request' invocation invocation' hplan hplan' heq
    obtain ⟨hgeneration, hrequest⟩ := plan_eq_ok.mp hplan
    obtain ⟨hgeneration', hrequest'⟩ := plan_eq_ok.mp hplan'
    exact planRequest_inj heq hnames hrequest hrequest' (hgeneration.trans hgeneration'.symm)

/-- A dry run that gives an instance more memory. -/
def growWeb : LifecycleRequest := .update ⟨⟨⟨1⟩, ⟨1⟩⟩, none, some 8192, none, true⟩

/-- The vector of a dry run is well shaped, and no other request has it. -/
theorem arguments_unambiguous_tight : ∃ invocation, plan growWeb tightSnapshot = .ok invocation ∧
      invocation.arguments = [.ofString "update", .ofString "web", .ofString "--memory=8192",
        .ofString "--dry-run"] ∧
      WellShaped invocation.arguments ∧
      ∀ request invocation', plan request tightSnapshot = .ok invocation' →
        invocation'.arguments = invocation.arguments → request = growWeb := by
  obtain ⟨hshape, hread⟩ := arguments_unambiguous tightSnapshot (by decide)
  have hplan : plan growWeb tightSnapshot = .ok
      (updateInvocation ⟨⟨⟨1⟩, ⟨1⟩⟩, none, some 8192, none, true⟩ "web") := by decide +kernel
  refine ⟨_, hplan, by decide +kernel, hshape _ _ hplan, ?_⟩
  intro request invocation' hplan' heq
  exact hread request growWeb invocation' _ hplan' hplan heq

end Kernmux.Daemon.Lifecycle
