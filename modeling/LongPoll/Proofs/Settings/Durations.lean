import LongPoll.Parameter
import LongPoll.Proofs.Settings.Exact
import LongPoll.Proofs.Settings.RoundTrip
/-!
# Durations survive being written and read

A written duration is always read, as the duration rounded down to whole milliseconds. Settings
hold whole milliseconds only, whether they were given or stand in for what was not, and so does
every duration that was read; these come back as they were.

* `ServerOptions.durations`: all durations in the settings of a server.
* `ServerOptions.isWhole_of_parse`: those of accepted settings are whole milliseconds.
* `Duration.written_durations_read_back`: which duration a written one reads as.
-/

namespace LongPoll

/-! ### The durations in settings -/

/-- The durations in a rule: its expiry, and the leeway of its policy. -/
def ChannelRule.durations (r : ChannelRule) : List Duration :=
  r.expire :: r.jwt.toList.map (·.leeway)

/-- The durations in the settings of a storage: its interval, and its time for a pass. -/
def StorageOptions.durations (o : StorageOptions) : List Duration :=
  o.memory.toList.flatMap fun m => [m.collectInterval, m.collectTimeout]

/-- The durations in the settings of a server. -/
def ServerOptions.durations (o : ServerOptions) : List Duration :=
  o.http.maxWait :: (o.channels.flatMap ChannelRule.durations ++
    o.storages.flatMap fun e => e.2.durations)

/-- The durations in an exact rule are whole milliseconds. -/
theorem ChannelRule.Exact.isWhole_of_mem {r : ChannelRule} (h : r.Exact) {d : Duration}
    (hd : d ∈ r.durations) : d.IsWhole := by
  obtain rfl | hd := List.mem_cons.mp hd
  · exact h.expire
  · obtain ⟨p, hp, rfl⟩ := List.mem_map.mp hd
    exact h.leeway p (Option.mem_toList.mp hp)

/-- The durations in the exact settings of a storage are whole milliseconds. -/
theorem StorageOptions.Exact.isWhole_of_mem {o : StorageOptions} (h : o.Exact) {d : Duration}
    (hd : d ∈ o.durations) : d.IsWhole := by
  obtain ⟨m, hm, hd⟩ := List.mem_flatMap.mp hd
  have hexact := h m (Option.mem_toList.mp hm)
  obtain rfl | hd := List.mem_cons.mp hd
  · exact hexact.interval
  · exact List.mem_singleton.mp hd ▸ hexact.timeout

namespace ServerOptions

/-- The durations in exact settings of a server are whole milliseconds. -/
theorem Exact.isWhole_of_mem {o : ServerOptions} (h : o.Exact) {d : Duration}
    (hd : d ∈ o.durations) : d.IsWhole := by
  obtain rfl | hd := List.mem_cons.mp hd
  · exact h.http.maxWait
  · obtain hd | hd := List.mem_append.mp hd
    · obtain ⟨r, hr, hd⟩ := List.mem_flatMap.mp hd
      exact (h.channels r hr).isWhole_of_mem hd
    · obtain ⟨e, he, hd⟩ := List.mem_flatMap.mp hd
      exact (h.storages.entries e he).isWhole_of_mem hd

/-- What the command line says holds no durations. -/
theorem durations_override (o : ServerOptions) (given : Overrides) :
    (o.override given).durations = o.durations := rfl

/-- Accepted settings hold whole milliseconds. -/
theorem isWhole_of_parse {text : String} {given : Overrides} {o : ServerOptions}
    (h : parse text given = .ok o) {d : Duration} (hd : d ∈ o.durations) : d.IsWhole := by
  -- overriding brings no durations, and completing brings whole ones
  obtain ⟨o', hread, rfl, -⟩ := parse_eq_ok_iff.mp h
  rw [durations_override] at hd
  exact (exact_of_read hread).complete.isWhole_of_mem hd

end ServerOptions

/-! ### Reading what was written -/

namespace Duration

/-- A duration of whole milliseconds survives being written and read. -/
theorem parse_toText_of_isWhole {d : Duration} (h : d.IsWhole) : parse d.toText = .ok d := by
  rw [parse_eq_ok_iff, parse?_toText, inMillis_of_isWhole h]

/-- Every written duration is read, rounded down to whole milliseconds. So every duration in
accepted settings survives being written and read, and so does every duration that was read from a
text. -/
theorem written_durations_read_back :
    (∀ d : Duration, parse d.toText = .ok d.inMillis) ∧
    (∀ text given o, ServerOptions.parse text given = .ok o →
      ∀ d ∈ o.durations, parse d.toText = .ok d) ∧
    ∀ s d, parse s = .ok d → parse d.toText = .ok d :=
  ⟨fun d => parse_eq_ok_iff.mpr d.parse?_toText,
    fun _ _ _ h _ hd => parse_toText_of_isWhole (ServerOptions.isWhole_of_parse h hd),
    fun _ _ h => parse_toText_of_isWhole (isWhole_of_parse? (parse_eq_ok_iff.mp h))⟩

namespace Sample

/-- Settings with a longest time to wait, and with a channel that grants a leeway. -/
def settings : String :=
  "http:\n  longPollingMaxTimeout: 90s\nchannels:\n- regex: a\n  jwt:\n    clockSkewLeeway: 1ms\n"

/-- The longest duration. -/
def longest : Duration := ⟨maxNanos, Nat.le_refl _⟩

end Sample

/-- The longest duration, those of some settings, and one that was read with its units in no
order. -/
theorem written_durations_read_back_sample :
    parse Sample.longest.toText = .ok Sample.longest.inMillis ∧
    (∃ o, ServerOptions.parse Sample.settings .none = .ok o ∧
      o.durations.map toText = ["1m30s", "30m", "1ms", "5m", "3s"] ∧
      ∀ d ∈ o.durations, parse d.toText = .ok d) ∧
    parse (toText (.seconds 5400)) = .ok (.seconds 5400) := by
  obtain ⟨hevery, hsettings, hread⟩ := written_durations_read_back
  refine ⟨hevery _, ?_, hread " 30m1h " _ (parse_eq_ok_iff.mpr (by decide +kernel))⟩
  have hdurations : (ServerOptions.parse Sample.settings .none).toOption.map
      (·.durations.map toText) = some ["1m30s", "30m", "1ms", "5m", "3s"] := by decide +kernel
  -- the settings are accepted, and their durations are what was computed
  cases hparse : ServerOptions.parse Sample.settings .none with rw [hparse] at hdurations
  | error e => exact nomatch hdurations
  | ok o => exact ⟨o, rfl, Option.some.inj hdurations, hsettings _ _ _ hparse⟩

end Duration

end LongPoll
