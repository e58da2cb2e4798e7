import Kernmux.Daemon.Transport

/-!
# Kernmux.Daemon.RouterPaths

**The paths that the routers know.** A few paths are compared as a whole. Every
other path names a resource after one of four beginnings, and since none of
these begins with another one, the order in which the routers try them does not
matter: a path that names an operation, an image, an OS image or an instance is
routed by that alone (`routeFor_operation` and its siblings), and a path that is
written for a resource is read back (`instanceResource_action` and its
siblings).
-/

namespace Kernmux.Daemon.HostApi

open Api.V1 Library

variable {other path : String} {id : ArtifactId} {action : Option InstanceAction}
  {kind : ArtifactKind}

/-! ### Beginnings -/

/-- Paths that are compared as a whole. -/
def fixedPaths : List String :=
  ["/1.0", "/1.0/compatibility", "/1.0/resource-pool", "/1.0/instances", "/1.0/images",
    "/1.0/os-images", "/1.0/storage-devices", "/1.0/operations", "/1.0/events"]

/-- Beginnings of the paths that name a resource. -/
def resourceStarts : List String :=
  ["/1.0/operations/", "/1.0/images/", "/1.0/os-images/", "/1.0/instances/"]

theorem stripPrefix_other {start : String} (hstart : start ∈ resourceStarts)
    (hother : other ∈ resourceStarts) (hne : start ≠ other) (rest : String) :
    stripPrefix start (other ++ rest) = none := by
  have hapart : ∀ start ∈ resourceStarts, ∀ other ∈ resourceStarts, start ≠ other →
      stripPrefix start other = none := by decide
  exact stripPrefix_append_eq_none (hapart start hstart other hother hne)
    (hapart other hother start hstart hne.symm) rest

theorem not_mem_fixedPaths {start : String} (hstart : start ∈ resourceStarts) (rest : String) :
    start ++ rest ∉ fixedPaths := by
  intro hfixed
  have hapart : ∀ start ∈ resourceStarts, ∀ path ∈ fixedPaths, stripPrefix start path = none := by
    decide
  have hnone := hapart start hstart _ hfixed
  simp at hnone

/-! ### The fallbacks of the two routers -/

theorem routeFor_eq_resourceRoute (h : path ∉ fixedPaths) (method : Method) :
    routeFor method path = resourceRoute method path := by
  unfold routeFor
  split
  case h_14 => rfl
  all_goals exact absurd (by decide) h

theorem dispatch_eq_dispatchResource {request : LocalRequest} (h : request.path ∉ fixedPaths)
    (api : Dispatcher) (peer : PeerIdentity) :
    api.dispatch request peer = api.dispatchResource request peer := by
  obtain ⟨method, path, query, requestId, body⟩ := request
  unfold Dispatcher.dispatch
  simp only at h ⊢
  split
  all_goals first
    | rfl
    | exact absurd (by decide) h

/-! ### Where a named resource begins -/

theorem path_of_operation {id : OperationId} (h : operationIdFromPath path = some id) :
    path = "/1.0/operations/" ++ id.val ∧ id.val ≠ "" ∧ '/' ∉ id.val.toList := by
  obtain ⟨suffix, hsuffix, h⟩ := Option.bind_eq_some_iff.mp h
  by_cases hvalid : suffix ≠ "" ∧ '/' ∉ suffix.toList
  · rw [if_pos hvalid] at h
    cases h
    exact ⟨eq_append_of_stripPrefix hsuffix, hvalid⟩
  · rw [if_neg hvalid] at h
    cases h

theorem operationIdFromPath_of_other (hother : other ∈ resourceStarts)
    (hne : "/1.0/operations/" ≠ other) (rest : String) :
    operationIdFromPath (other ++ rest) = none := by
  simp [operationIdFromPath, stripPrefix_other (by decide) hother hne]

theorem imageResource_of_other (hother : other ∈ resourceStarts) (hne : "/1.0/images/" ≠ other)
    (rest : String) : imageResource (other ++ rest) = none := by
  simp [imageResource, stripPrefix_other (by decide) hother hne]

theorem osImageResource_of_other (hother : other ∈ resourceStarts) (hne : "/1.0/os-images/" ≠ other)
    (rest : String) : osImageResource (other ++ rest) = none := by
  simp [osImageResource, stripPrefix_other (by decide) hother hne]

/-! ### Routes of named resources -/

theorem fixed_of_operation {id : OperationId} (h : operationIdFromPath path = some id) :
    path ∉ fixedPaths := by
  rw [(path_of_operation h).1]
  exact not_mem_fixedPaths (by decide) _

/-- What is asked before images. -/
theorem others_of_image {image : ArtifactKind × ArtifactId} (h : imageResource path = some image) :
    path ∉ fixedPaths ∧ operationIdFromPath path = none := by
  obtain ⟨suffix, hsuffix, -⟩ := Option.bind_eq_some_iff.mp h
  rw [eq_append_of_stripPrefix hsuffix]
  exact ⟨not_mem_fixedPaths (by decide) _, operationIdFromPath_of_other (by decide) (by decide) _⟩

theorem others_of_osImage (h : osImageResource path = some id) :
    path ∉ fixedPaths ∧ operationIdFromPath path = none ∧ imageResource path = none := by
  obtain ⟨suffix, hsuffix, -⟩ := Option.bind_eq_some_iff.mp h
  rw [eq_append_of_stripPrefix hsuffix]
  exact ⟨not_mem_fixedPaths (by decide) _, operationIdFromPath_of_other (by decide) (by decide) _,
    imageResource_of_other (by decide) (by decide) _⟩

theorem others_of_instance {id : InstanceId} (h : instanceResource path = some (id, action)) :
    path ∉ fixedPaths ∧ operationIdFromPath path = none ∧ imageResource path = none ∧
      osImageResource path = none := by
  obtain ⟨suffix, hsuffix, -⟩ := Option.bind_eq_some_iff.mp h
  rw [eq_append_of_stripPrefix hsuffix]
  exact ⟨not_mem_fixedPaths (by decide) _, operationIdFromPath_of_other (by decide) (by decide) _,
    imageResource_of_other (by decide) (by decide) _,
    osImageResource_of_other (by decide) (by decide) _⟩

section Named

variable (method : Method)

theorem routeFor_operation {id : OperationId} (h : operationIdFromPath path = some id) :
    routeFor method path = operationRoute method := by
  rw [routeFor_eq_resourceRoute (fixed_of_operation h), resourceRoute, h]
  rfl

theorem routeFor_image {image : ArtifactKind × ArtifactId} (h : imageResource path = some image) :
    routeFor method path = imageRoute method := by
  obtain ⟨hfixed, hoperation⟩ := others_of_image h
  rw [routeFor_eq_resourceRoute hfixed, resourceRoute, hoperation, h]
  rfl

theorem routeFor_osImage (h : osImageResource path = some id) :
    routeFor method path = imageRoute method := by
  obtain ⟨hfixed, hoperation, himage⟩ := others_of_osImage h
  rw [routeFor_eq_resourceRoute hfixed, resourceRoute, hoperation, himage, h]
  rfl

theorem routeFor_instance {id : InstanceId} (h : instanceResource path = some (id, action)) :
    routeFor method path = instanceRoute method action := by
  obtain ⟨hfixed, hoperation, himage, hosImage⟩ := others_of_instance h
  rw [routeFor_eq_resourceRoute hfixed, resourceRoute, hoperation, himage, hosImage]
  simp only [h, Option.isSome_none, Bool.false_eq_true, if_false]

end Named

section Dispatch

variable {request : LocalRequest} (api : Dispatcher) (peer : PeerIdentity)

theorem dispatch_operation {id : OperationId} (h : operationIdFromPath request.path = some id) :
    api.dispatch request peer = match request.method with
      | .get => .handler (.operation id)
      | .delete => .handler (.cancel id)
      | _ => .unrouted := by
  rewrite [dispatch_eq_dispatchResource (fixed_of_operation h), Dispatcher.dispatchResource, h]
  rfl

theorem dispatch_image (h : imageResource request.path = some (kind, id)) :
    api.dispatch request peer = match request.method with
      | .get => .handler (.image kind id)
      | _ => .unrouted := by
  obtain ⟨hfixed, hoperation⟩ := others_of_image h
  rewrite [dispatch_eq_dispatchResource hfixed, Dispatcher.dispatchResource, hoperation, h]
  rfl

theorem dispatch_osImage (h : osImageResource request.path = some id) :
    api.dispatch request peer = match request.method with
      | .get => .handler (.osImage id)
      | _ => .unrouted := by
  obtain ⟨hfixed, hoperation, himage⟩ := others_of_osImage h
  rewrite [dispatch_eq_dispatchResource hfixed, Dispatcher.dispatchResource, hoperation, himage, h]
  rfl

theorem dispatch_instance {id : InstanceId} (h : instanceResource request.path = some (id, action)) :
    api.dispatch request peer = api.dispatchInstance request peer id action := by
  obtain ⟨hfixed, hoperation, himage, hosImage⟩ := others_of_instance h
  rw [dispatch_eq_dispatchResource hfixed, Dispatcher.dispatchResource, hoperation, himage,
    hosImage, h]

end Dispatch

/-! ### Paths that are written for a resource -/

theorem operationIdFromPath_append {id : String} (hid : id ≠ "") (hslash : '/' ∉ id.toList) :
    operationIdFromPath ("/1.0/operations/" ++ id) = some ⟨id⟩ := by
  simp [operationIdFromPath, hid, hslash]

theorem slash_not_mem_id (id : ArtifactId) : '/' ∉ id.value.toList :=
  id.not_mem_value (by decide) (by decide)

/-- The word for a kind of boot artifact in a path. -/
theorem imageResource_append (hkind : kind ≠ .osImage) (id : ArtifactId) :
    imageResource ("/1.0/images/" ++ kind.directory ++ "/" ++ id.value) = some (kind, id) := by
  have hid : splitText '/' id.value = [id.value] := splitText_of_not_mem (slash_not_mem_id id)
  have hsplit : splitText '/' (kind.directory ++ ("/" ++ id.value)) = [kind.directory, id.value] := by
    have hword : '/' ∉ kind.directory.toList := by cases kind <;> decide
    rw [splitText_append hword (String.toList_append ..)]
    simp [hid]
  rw [String.append_assoc, String.append_assoc]
  cases kind with
  | kernel | initrd =>
      rw [imageResource, stripPrefix_append, Option.bind_eq_bind, Option.bind_some, hsplit]
      simp [ArtifactKind.directory, ArtifactId.parse_value, Except.toOption]
  | osImage => exact absurd rfl hkind

theorem osImageResource_append (id : ArtifactId) :
    osImageResource ("/1.0/os-images/" ++ id.value) = some id := by
  simp [osImageResource, id.value_ne_empty, slash_not_mem_id, ArtifactId.parse_value,
    Except.toOption]

theorem slash_not_mem_toString (number : ℕ) : '/' ∉ (toString number).toList :=
  fun hslash => absurd (isDigit_of_mem_toString hslash) (by decide)

theorem instanceResource_append (id : InstanceId) :
    instanceResource ("/1.0/instances/" ++ toString id.val.toNat) = some (id, none) := by
  have hid : parseUnsigned (2 ^ 32) (toString id.val.toNat) = some id.val.toNat :=
    parseUnsigned_toString id.val.toNat_lt
  simp only [instanceResource, stripPrefix_append, Option.bind_eq_bind, Option.bind_some,
    splitText_of_not_mem (slash_not_mem_toString _), hid, UInt32.ofNat_toNat, Option.pure_def]

/-- The path of an action is read back, where the action follows the last slash. -/
theorem instanceResource_action (id : InstanceId) (word : String) {rest : String}
    {action : InstanceAction} (hrest : rest.toList = '/' :: word.toList)
    (hword : '/' ∉ word.toList) (haction : instanceAction word = some action) :
    instanceResource ("/1.0/instances/" ++ toString id.val.toNat ++ rest) =
      some (id, some action) := by
  have hid : parseUnsigned (2 ^ 32) (toString id.val.toNat) = some id.val.toNat :=
    parseUnsigned_toString id.val.toNat_lt
  have hsplit : splitText '/' (toString id.val.toNat ++ rest) = [toString id.val.toNat, word] := by
    rw [splitText_append (slash_not_mem_toString _) hrest, String.ofList_toList,
      splitText_of_not_mem hword]
  rw [String.append_assoc]
  simp only [instanceResource, stripPrefix_append, Option.bind_eq_bind, Option.bind_some, hsplit,
    hid, haction, UInt32.ofNat_toNat, Option.pure_def]

/-! ### Paths that are read as a resource -/

/-- A path with two parts behind its beginning. -/
theorem eq_append_of_splitText {suffix first second : String}
    (h : splitText '/' suffix = [first, second]) : suffix = first ++ "/" ++ second := by
  rw [← intercalate_splitText '/' suffix, h]
  simp [String.intercalate_cons_cons]

theorem eq_of_splitText {suffix first : String} (h : splitText '/' suffix = [first]) :
    suffix = first := by
  rw [← intercalate_splitText '/' suffix, h, String.intercalate_singleton]

theorem value_of_parse_toOption {text : String}
    (h : (ArtifactId.parse text).toOption = some id) : text = id.value := by
  cases hparse : ArtifactId.parse text with
  | ok parsed =>
      rw [hparse] at h
      cases h
      exact ArtifactId.value_of_parse hparse
  | error error =>
      rw [hparse] at h
      cases h

theorem eq_path_of_image (h : imageResource path = some (kind, id)) :
    (kind = .kernel ∨ kind = .initrd) ∧
      path = "/1.0/images/" ++ (kind.directory ++ "/" ++ id.value) := by
  obtain ⟨suffix, hsuffix, h⟩ := Option.bind_eq_some_iff.mp h
  rw [eq_append_of_stripPrefix hsuffix]
  split at h
  case h_1 word text hsplit =>
    rw [eq_append_of_splitText hsplit]
    simp only at h
    split at h
    case h_1 | h_2 =>
      rw [Option.bind_eq_bind, Option.bind_some] at h
      obtain ⟨found, htext, h⟩ := Option.bind_eq_some_iff.mp h
      cases h
      rw [value_of_parse_toOption htext]
      exact ⟨by simp, rfl⟩
    case h_3 => cases h
  case h_2 => cases h

theorem eq_path_of_osImage (h : osImageResource path = some id) :
    path = "/1.0/os-images/" ++ id.value := by
  obtain ⟨suffix, hsuffix, h⟩ := Option.bind_eq_some_iff.mp h
  rw [eq_append_of_stripPrefix hsuffix]
  split at h
  case isTrue => rw [value_of_parse_toOption h]
  case isFalse => cases h

/-- An instance, or an action on one. -/
theorem eq_path_of_instance {id : InstanceId} (h : instanceResource path = some (id, action)) :
    ∃ text, parseUnsigned (2 ^ 32) text = some id.val.toNat ∧
      (action = none ∧ path = "/1.0/instances/" ++ text ∨
        ∃ found word, action = some found ∧ instanceAction word = some found ∧
          path = "/1.0/instances/" ++ (text ++ "/" ++ word)) := by
  obtain ⟨suffix, hsuffix, h⟩ := Option.bind_eq_some_iff.mp h
  rw [eq_append_of_stripPrefix hsuffix]
  have hnumber {text : String} {number : ℕ} (hnumber : parseUnsigned (2 ^ 32) text = some number)
      (hid : (⟨.ofNat number⟩ : InstanceId) = id) :
      parseUnsigned (2 ^ 32) text = some id.val.toNat := by
    rw [hnumber, ← hid, UInt32.toNat_ofNat_of_lt' (parseUnsigned_lt hnumber)]
  split at h
  case h_1 text hsplit =>
    obtain ⟨number, hfound, h⟩ := Option.bind_eq_some_iff.mp h
    obtain ⟨hid, rfl⟩ := Prod.mk.inj (Option.some.inj h)
    exact ⟨text, hnumber hfound hid, .inl ⟨rfl, by rw [eq_of_splitText hsplit]⟩⟩
  case h_2 text word hsplit =>
    obtain ⟨number, hfound, h⟩ := Option.bind_eq_some_iff.mp h
    obtain ⟨found, hword, h⟩ := Option.bind_eq_some_iff.mp h
    obtain ⟨hid, rfl⟩ := Prod.mk.inj (Option.some.inj h)
    exact ⟨text, hnumber hfound hid, .inr ⟨found, word, rfl, hword, by
      rw [eq_append_of_splitText hsplit]⟩⟩
  case h_3 => cases h

/-- A path with a route as a resource names one that may be accessed this way. -/
theorem of_resourceRoute_eq_some {method : Method} {route : RouteSecurity}
    (h : resourceRoute method path = some route) :
    (∃ id, operationIdFromPath path = some id ∧ operationRoute method = some route) ∨
      (∃ image, imageResource path = some image ∧ imageRoute method = some route) ∨
      (∃ id, osImageResource path = some id ∧ imageRoute method = some route) ∨
      ∃ id action, instanceResource path = some (id, action) ∧
        instanceRoute method action = some route := by
  unfold resourceRoute at h
  split at h
  case isTrue hsome =>
    obtain ⟨id, hid⟩ := Option.isSome_iff_exists.mp hsome
    exact .inl ⟨id, hid, h⟩
  case isFalse =>
    split at h
    case isTrue hsome =>
      obtain ⟨image, himage⟩ := Option.isSome_iff_exists.mp hsome
      exact .inr (.inl ⟨image, himage, h⟩)
    case isFalse =>
      split at h
      case isTrue hsome =>
        obtain ⟨id, hid⟩ := Option.isSome_iff_exists.mp hsome
        exact .inr (.inr (.inl ⟨id, hid, h⟩))
      case isFalse =>
        split at h
        case h_1 => cases h
        case h_2 id action hinstance => exact .inr (.inr (.inr ⟨id, action, hinstance, h⟩))

/-- Consoles are opened by one action on an instance only. -/
theorem instanceResource_of_console {method : Method} {route : RouteSecurity}
    (h : routeFor method path = some route) (hclass : route.requestClass = .console) :
    ∃ id, instanceResource path = some (id, some .console) := by
  have hread {found : RouteSecurity} (hfound : some found = some route)
      (hother : found.requestClass ≠ .console) : False := by
    cases hfound
    exact hother hclass
  have himageRoute : imageRoute method ≠ some route := by
    intro hroute
    cases method with
    | get => exact hread hroute (by decide)
    | put | post | patch | delete | other => cases hroute
  unfold routeFor at h
  split at h
  case h_14 =>
    rcases of_resourceRoute_eq_some h with ⟨_, -, hroute⟩ | ⟨_, -, hroute⟩ | ⟨_, -, hroute⟩ |
      ⟨id, action, hinstance, hroute⟩
    · cases method with
      | get | delete => exact (hread hroute (by decide)).elim
      | put | post | patch | other => cases hroute
    · exact absurd hroute himageRoute
    · exact absurd hroute himageRoute
    · unfold instanceRoute at hroute
      split at hroute
      case h_4 => exact ⟨id, hinstance⟩
      case h_6 => cases hroute
      all_goals exact (hread hroute (by decide)).elim
  all_goals exact (hread h (by decide)).elim

end Kernmux.Daemon.HostApi
