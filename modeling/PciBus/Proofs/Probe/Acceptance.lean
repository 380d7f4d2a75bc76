import Mathlib.Data.List.TakeWhile
import PciBus.Proofs.Probe.ArgumentList
import PciBus.Proofs.Probe.Criterion
import PciBus.Proofs.Session.Opening

/-!
# Which devices a probe accepts

The devices that an argument list names can be taken out of it: the other
clauses make the same request, but for the devices (`Probe.gather_others`). Of
the devices those count that stand before the first with vendor number zero,
which ends the whitelist (`Probe.entryFor?_whitelist`). Neither their order nor
a repetition makes a difference (`Probe.order_of_devices`). The number zero does
make one, since it cuts off what is named behind it (`Probe.zero_cuts_off`).
-/

namespace PciBus.Probe

variable {log : Option Bytes} {o o' : Options} {key : Key} {value : String}

/-! ## Devices in an argument list -/

/-- The options with other accepted devices. -/
def Options.accepting (o : Options) (ids : List DeviceId) : Options := { o with ids := ids }

def Request.accepting (ids : List DeviceId) : Request → Request
  | .help => .help
  | .version => .version
  | .probe options => .probe (options.accepting ids)

/-- The device that a clause names. -/
def Clause.device? : Clause → Option DeviceId
  | .given .id value => (DeviceId.read value).toOption
  | _ => none

/-- The devices that are named, in their order. -/
def devices (cs : List Clause) : List DeviceId := cs.filterMap Clause.device?

/-- The clauses that name no device, in their order. -/
def others (cs : List Clause) : List Clause := cs.filter (·.device?.isNone)

theorem Taken.accepting (h : Taken o value key o') (ids : List DeviceId) :
    ∃ ids', Taken (o.accepting ids) value key (o'.accepting ids') := by
  cases h with
  | id hread => exact ⟨_, .id hread⟩
  | filter hnone => exact ⟨_, .filter hnone⟩
  | bar hnone hread => exact ⟨_, .bar hnone hread⟩
  | root hnone hempty => exact ⟨_, .root hnone hempty⟩
  | names hnone hempty => exact ⟨_, .names hnone hempty⟩
  | read hnone hread => exact ⟨_, .read hnone hread⟩
  | logLevel hnone => exact ⟨_, .logLevel hnone⟩

/-- A value names one more device or none at all. -/
theorem Taken.ids (h : Taken o value key o') :
    o'.ids = o.ids ++ ((Clause.given key value).device?).toList := by
  cases h with
  | id hread => simp [Clause.device?, hread, Except.toOption]
  | _ => simp [Clause.device?]

/-- Whatever is accepted so far, the same values are taken. -/
theorem set_accepting (o : Options) (ids : List DeviceId) (key : Key) (value : String) :
    ∃ ids', ((o.accepting ids).set key value).toOption =
      (o.set key value).toOption.map (·.accepting ids') := by
  cases hset : o.set key value with
  | ok o' =>
      obtain ⟨ids', htaken⟩ := (set_eq_ok_iff.mp hset).accepting ids
      exact ⟨ids', by rw [set_eq_ok_iff.mpr htaken]; rfl⟩
  | error refusal =>
      refine ⟨ids, ?_⟩
      cases hset' : (o.accepting ids).set key value with
      | error refusal => rfl
      | ok o' =>
          obtain ⟨ids', htaken⟩ := (set_eq_ok_iff.mp hset').accepting o.ids
          cases (set_eq_ok_iff.mpr htaken).symm.trans hset

/-- The log filter of the environment is added to whatever was given. -/
theorem withLog_eq (o : Options) (log : Option Bytes) :
    o.withLog log = (Options.withLog { logLevel := o.logLevel } log).map fun other =>
      { o with logLevel := other.logLevel } := by
  obtain ⟨ids, filter, bar, root, names, read, logLevel⟩ := o
  cases logLevel with
  | some level => rfl
  | none =>
      cases log with
      | none => rfl
      | some bytes =>
          simp only [Options.withLog]
          cases String.fromUTF8? ⟨bytes⟩ <;> rfl

/-- What is accepted at the start is forgotten when other devices are put in. -/
theorem gather_accepting (log : Option Bytes) (ids : List DeviceId) (cs : List Clause) :
    ∀ (o : Options) (earlier : List DeviceId),
      (gather log (o.accepting earlier) cs).map (Request.accepting ids) =
        (gather log o cs).map (Request.accepting ids) := by
  induction cs with
  | nil =>
      intro o earlier
      simp only [gather, withLog_eq (o.accepting earlier), withLog_eq o]
      show Option.map _ (Option.map _
        (Except.map _ (Options.withLog { logLevel := o.logLevel } log)).toOption) = _
      cases Options.withLog { logLevel := o.logLevel } log <;> rfl
  | cons c rest ih =>
      intro o earlier
      cases c with
      | given key value =>
          obtain ⟨ids', hset⟩ := set_accepting o earlier key value
          simp only [gather, hset, Option.bind_map, Option.map_bind]
          congr 1
          funext o
          exact ih o ids'
      | lacking key => rfl
      | help => rfl
      | version => rfl
      | stray argument => rfl

theorem gather_device {c : Clause} {id : DeviceId} (h : c.device? = some id) (log : Option Bytes)
    (o : Options) (rest : List Clause) :
    gather log o (c :: rest) = gather log (o.accepting (o.ids ++ [id])) rest := by
  cases c with
  | given key value =>
      cases key with
      | id =>
          cases hread : DeviceId.read value with
          | error reason =>
              rw [Clause.device?, hread] at h
              cases h
          | ok other =>
              rw [Clause.device?, hread] at h
              obtain rfl := Option.some.inj h
              rw [gather, set_eq_ok_iff.mpr (.id hread)]
              rfl
      | _ => cases h
  | _ => cases h

/-- The devices can be taken out: the other clauses make the same request, but
for the devices that are accepted. -/
theorem gather_others (log : Option Bytes) (cs : List Clause) :
    ∀ o : Options, gather log o cs =
      (gather log o (others cs)).map (Request.accepting (o.ids ++ devices cs)) := by
  induction cs with
  | nil =>
      intro o
      simp only [others, devices, gather, List.filter_nil, List.filterMap_nil, List.append_nil,
        withLog_eq o]
      cases Options.withLog { logLevel := o.logLevel } log <;> rfl
  | cons c rest ih =>
      intro o
      cases hdevice : c.device? with
      | some id =>
          have hothers : others (c :: rest) = others rest := by simp [others, hdevice]
          have hdevices : devices (c :: rest) = id :: devices rest := by simp [devices, hdevice]
          rw [gather_device hdevice, ih, gather_accepting, hothers, hdevices]
          show Option.map (Request.accepting (o.ids ++ [id] ++ devices rest)) _ = _
          rw [List.append_assoc, List.singleton_append]
      | none =>
          have hothers : others (c :: rest) = c :: others rest := by simp [others, hdevice]
          have hdevices : devices (c :: rest) = devices rest := by simp [devices, hdevice]
          rw [hothers, hdevices]
          cases c with
          | given key value =>
              simp only [gather]
              cases hset : o.set key value with
              | error refusal => rfl
              | ok o' =>
                  have hids : o'.ids = o.ids := by
                    rw [(set_eq_ok_iff.mp hset).ids, hdevice]
                    exact List.append_nil _
                  rw [← hids]
                  exact ih o'
          | lacking key => rfl
          | help => rfl
          | version => rfl
          | stray argument => rfl

/-! ## Devices in a whitelist -/

/-- The devices before the first with vendor number zero. -/
def counted (ids : List DeviceId) : List DeviceId := ids.takeWhile (·.vendor != 0)

/-- The device that a function is. -/
def idOf (record : Record) : DeviceId := ⟨record.vendor, record.device⟩

theorem counted_cons (id : DeviceId) (rest : List DeviceId) :
    counted (id :: rest) = if id.vendor = 0 then [] else id :: counted rest := by
  unfold counted
  by_cases hzero : id.vendor = 0 <;> simp [hzero]

/-- A function has an entry exactly if its device counts. -/
theorem entryFor?_whitelist (options : Options) (record : Record) :
    (whitelist options).entryFor? record =
      if idOf record ∈ counted options.ids then some ⟨record.vendor, record.device, .works, ()⟩
      else none := by
  unfold whitelist
  induction options.ids with
  | nil => rfl
  | cons id rest ih =>
      rw [List.map_cons, Whitelist.entryFor?_cons, ih, counted_cons]
      by_cases hzero : id.vendor = 0
      · simp [hzero]
      · by_cases hfor : id = idOf record
        · subst hfor
          have hself : Supported.IsFor
              ⟨(idOf record).vendor, (idOf record).device, .works, ()⟩ record := ⟨rfl, rfl⟩
          rw [if_neg hzero, if_pos hself, if_neg hzero, if_pos List.mem_cons_self]
          rfl
        · have hother : ¬ Supported.IsFor ⟨id.vendor, id.device, .works, ()⟩ record := by
            rintro ⟨hvendor, hdevice⟩
            exact hfor (by cases id; simp_all [idOf])
          simp [hzero, hother, Ne.symm hfor]

/-- A function is on the whitelist of a probe exactly if its device counts. -/
theorem lists_whitelist_iff {options : Options} {record : Record} :
    (whitelist options).Lists record ↔ idOf record ∈ counted options.ids := by
  rw [← Whitelist.isSome_entryFor?_iff, entryFor?_whitelist]
  split
  · rename_i hcounted
    exact iff_of_true rfl hcounted
  · rename_i hcounted
    exact iff_of_false Bool.false_ne_true hcounted

/-- A probe looks at nothing but which devices count. -/
theorem probe_accepting (options : Options) {ids ids' : List DeviceId}
    (h : ∀ id, id ∈ counted ids ↔ id ∈ counted ids') :
    probe (options.accepting ids) = probe (options.accepting ids') := by
  have hentries : ∀ record, (whitelist (options.accepting ids)).entryFor? record =
      (whitelist (options.accepting ids')).entryFor? record := by
    intro record
    rw [entryFor?_whitelist, entryFor?_whitelist]
    exact if_congr (h (idOf record)) rfl rfl
  have hscan : probeScan (options.accepting ids) = probeScan (options.accepting ids') := by
    funext settings scan files
    unfold probeScan
    rw [Session.openDevice_congr hentries]
    rfl
  funext env files
  unfold probe
  rw [hscan]
  rfl

/-! ## The whole probe -/

/-- What is accepted is what was named. -/
theorem ids_of_read {arguments : List String} {options : Options}
    (h : Request.read log arguments = .ok (.probe options)) :
    options.ids = devices (clauses arguments) := by
  have hrequest := gather_of_read h
  rw [gather_others] at hrequest
  obtain ⟨request, -, hprobe⟩ := Option.map_eq_some_iff.mp hrequest
  cases request with
  | help => cases hprobe
  | version => cases hprobe
  | probe rest =>
      obtain rfl := Request.probe.inj hprobe
      rfl

/-- Whether devices were named at all is asked of the whole list. -/
theorem seenOf_accepting (env : Environment) (files : Files) {ids ids' : List DeviceId}
    (hempty : ids = [] ↔ ids' = []) (hcounted : ∀ id, id ∈ counted ids ↔ id ∈ counted ids')
    (request : Request) :
    seenOf env files (request.accepting ids).complete =
      seenOf env files (request.accepting ids').complete := by
  cases request with
  | help => rfl
  | version => rfl
  | probe options =>
      show seenOf env files (if ids.isEmpty then none else some (.probe (options.accepting ids))) =
        seenOf env files (if ids'.isEmpty then none else some (.probe (options.accepting ids')))
      simp only [List.isEmpty_iff, hempty]
      split
      · rfl
      · show (Outcome.ofReport (probe (options.accepting ids) env files).1 _).seen = _
        rw [probe_accepting options hcounted]
        rfl

/-- **The order of the devices.** Of two argument lists that name the same
devices, in whatever order and however often, and are the same apart from that,
a run shows the same, if the same devices count. These are the ones whose
functions are accepted, and they are all that are named where no vendor number
is zero. -/
theorem order_of_devices {arguments arguments' : List String}
    (hothers : others (clauses arguments) = others (clauses arguments'))
    (hsame : ∀ id, id ∈ devices (clauses arguments) ↔ id ∈ devices (clauses arguments'))
    (hcounted : ∀ id, id ∈ counted (devices (clauses arguments)) ↔
      id ∈ counted (devices (clauses arguments')))
    (env : Environment) (files : Files) :
    (run arguments env files).seen = (run arguments' env files).seen ∧
    (∀ options, Request.read (env.bytes? logVariable) arguments = .ok (.probe options) →
      ∀ record, (whitelist options).Lists record ↔
        idOf record ∈ counted (devices (clauses arguments))) ∧
    (counted (devices (clauses arguments)) = devices (clauses arguments) ↔
      ∀ id ∈ devices (clauses arguments), id.vendor ≠ 0) := by
  refine ⟨?_, ?_, ?_⟩
  · have hempty : devices (clauses arguments) = [] ↔ devices (clauses arguments') = [] := by
      simp only [List.eq_nil_iff_forall_not_mem, hsame]
    rw [run_seen, run_seen, read_clauses, read_clauses, gather_others _ (clauses arguments),
      gather_others _ (clauses arguments'), hothers]
    cases gather (env.bytes? logVariable) {} (others (clauses arguments')) with
    | none => rfl
    | some request => exact seenOf_accepting env files hempty hcounted request
  · intro options hread record
    rw [lists_whitelist_iff, ids_of_read hread]
  · rw [counted, List.takeWhile_eq_self_iff]
    simp only [bne_iff_ne]

/-- Two devices in either order, and one of them named once more. -/
theorem twoDevices_either_order :
    let arguments := ["--sysfs-root", "/", "--id", "8086:1234", "--id=10ec:8139"]
    let arguments' := ["--id=10EC:8139", "--sysfs-root", "/", "--id", "8086:1234", "--id=10ec:8139"]
    (run arguments [] cardTree).seen = (run arguments' [] cardTree).seen ∧
      (run arguments [] cardTree).code = 0 := by
  intro arguments arguments'
  have hdevices : devices (clauses arguments) = [⟨0x8086, 0x1234⟩, ⟨0x10ec, 0x8139⟩] := by
    decide +kernel
  have hdevices' : devices (clauses arguments') =
      [⟨0x10ec, 0x8139⟩, ⟨0x8086, 0x1234⟩, ⟨0x10ec, 0x8139⟩] := by decide +kernel
  have hsame : ∀ id : DeviceId, id ∈ [⟨0x8086, 0x1234⟩, ⟨0x10ec, 0x8139⟩] ↔
      id ∈ [⟨0x10ec, 0x8139⟩, ⟨0x8086, 0x1234⟩, ⟨0x10ec, 0x8139⟩] := by
    intro id
    simp only [List.mem_cons, List.not_mem_nil, or_false]
    tauto
  have hothers : others (clauses arguments) = others (clauses arguments') := by decide +kernel
  obtain ⟨hseen, -, -⟩ := order_of_devices hothers (by rw [hdevices, hdevices']; exact hsame)
    (by rw [hdevices, hdevices']; exact hsame) [] cardTree
  exact ⟨hseen, by decide +kernel⟩

/-- A device whose vendor number is zero ends the list of those that count, so
one that was accepted in front of it is not accepted behind it. -/
theorem zero_cuts_off :
    ¬ ∀ (arguments arguments' : List String) (env : Environment) (files : Files),
      others (clauses arguments) = others (clauses arguments') →
      (devices (clauses arguments)).Perm (devices (clauses arguments')) →
      (run arguments env files).seen = (run arguments' env files).seen := by
  intro h
  have hsame := h ["--sysfs-root", "/", "--id", "8086:1234", "--id", "0:0"]
    ["--sysfs-root", "/", "--id", "0:0", "--id", "8086:1234"] [] cardTree (by decide +kernel)
    (by decide +kernel)
  have hcode := congrArg Prod.fst hsame
  exact absurd hcode (by decide +kernel)

end PciBus.Probe
