import ModbusGateway.Config.Acceptance
import ModbusGateway.Library.SignedArithmetic
import ModbusGateway.Transport.Master

/-!
# Expiry

From the `timeout_ms` of a configuration that is accepted to the answer of `TimeoutReached`: the
number becomes a signed number of milliseconds, that one of nanoseconds, which is added to the
time at which the request was created.  None of the three steps is checked.

* `Config.HasTimeout` — a `timeout_ms` that is accepted, and what the master has of it.
* `ExpiryExact` — no step overflows, and a request expires when its time is over.
* `Config.expiryExact_iff` — **the arithmetic is exact exactly if the time at which the request is
  to expire is a time of the clock.**
-/

namespace ModbusGateway

open SignedArithmetic

/-- A master of an accepted configuration whose `timeout_ms` is extracted as `n`, and which is
made with `timeout`: `n` is the `size_t` that `ExtractUnsignedNumber` returns, after the
conversion of the number that is written. -/
def Config.HasTimeout (contrib : Contrib) (data : Json) (n : ℕ) (timeout : Milliseconds) : Prop :=
  ∃ (config : Config) (elements : List Json) (i : ℕ) (element : Json) (master : TransportConfig)
    (masterConfig : MasterConfig), config.Accepted contrib data ∧
    data.find keys.masters = some (.array elements) ∧ elements[i]? = some element ∧
    config.masters[i]? = some master ∧ master.masterConfig = some masterConfig ∧
    (∃ tracePath, extractUnsignedNumber contrib sizeMax tracePath element keys.timeout = .ok n) ∧
    masterConfig.timeout = timeout

/-- A request expires once `n` milliseconds have passed since it was created, and the conversions
to milliseconds and to nanoseconds, and the sum, do not overflow. -/
structure ExpiryExact {β : Type} (n : ℕ) (timeout : Milliseconds) (now : Nanoseconds)
    (message : ModbusMessage β) : Prop where
  expired : expired timeout now message = true ↔
    (n : ℤ) * 1000000 ≤ now.toInt - message.modbusMessageInfo.createTimeStamp.toInt
  milliseconds : timeout.toInt = n
  nanoseconds : (toNanoseconds timeout).toInt = timeout.toInt * 1000000
  sum : (message.modbusMessageInfo.createTimeStamp + toNanoseconds timeout).toInt =
    message.modbusMessageInfo.createTimeStamp.toInt + (toNanoseconds timeout).toInt

variable {contrib : Contrib} {data : Json} {n : ℕ} {timeout : Milliseconds}

/-- A master reads what every master reads. -/
theorem TransportConfig.ReadsMaster.masterConfig {obj : Json} {master : TransportConfig}
    {masterConfig : MasterConfig} (h : master.ReadsMaster contrib obj)
    (hmaster : master.masterConfig = some masterConfig) : masterConfig.Reads contrib obj := by
  cases h with
  | TcpClient _ hreads _ _ =>
    cases hmaster
    exact hreads
  | RtuMaster _ _ hreads _ _ =>
    cases hmaster
    exact hreads

/-- A master has the number that was extracted, as a signed one. -/
theorem Config.HasTimeout.eq_ofNat (h : Config.HasTimeout contrib data n timeout) :
    timeout = .ofNat n := by
  obtain ⟨config, elements, i, element, master, masterConfig, haccepted, hfind, hget, hget',
    hmaster, ⟨tracePath, hn⟩, rfl⟩ := h
  obtain ⟨_, hfind', _, rfl, -, hall⟩ := (Config.accepted_iff.mp haccepted).1.masters
  obtain rfl := Json.array.inj (Option.some.inj (hfind.symm.trans hfind'))
  obtain ⟨hi, rfl⟩ := List.getElem?_eq_some_iff.mp hget
  obtain ⟨hi', rfl⟩ := List.getElem?_eq_some_iff.mp hget'
  have hreads : masterConfig.Reads contrib elements[i] :=
    ((List.forall₂_iff_get.mp hall).2 i hi hi').masterConfig hmaster
  obtain ⟨value, hvalue, m, hm, htimeout⟩ := hreads.timeout
  obtain ⟨value', hvalue', hn'⟩ := extractUnsignedNumber_eq_ok.mp hn
  obtain rfl := Option.some.inj (hvalue.symm.trans hvalue')
  obtain rfl := Option.some.inj (hm.1.symm.trans hn'.1)
  exact htimeout.symm

/-- **The arithmetic is exact exactly if the time at which the request is to expire is a time of
the clock**: a number of nanoseconds that fits. -/
theorem Config.expiryExact_iff {β : Type} {now : Nanoseconds} {message : ModbusMessage β}
    (h : Config.HasTimeout contrib data n timeout)
    (hfresh : message.modbusMessageInfo.timeoutReached = false)
    (hcreated : 0 ≤ message.modbusMessageInfo.createTimeStamp) :
    ExpiryExact n timeout now message ↔
      message.modbusMessageInfo.createTimeStamp.toInt + n * 1000000 < 2 ^ 63 := by
  obtain rfl := h.eq_ofNat
  generalize hcreate : message.modbusMessageInfo.createTimeStamp = created at *
  have hnonneg : 0 ≤ created.toInt := Int64.le_iff_toInt_le.mp hcreated
  have hmillion : (1000000 : Int64).toInt = 1000000 := rfl
  constructor
  · intro hexact
    -- the sum is a value of the type, and it is the sum over the integers
    have hfits := (fits_toInt (created + toNanoseconds (.ofNat n))).2
    rw [← hcreate, hexact.sum, hexact.nanoseconds, hexact.milliseconds] at hfits
    rwa [← hcreate]
  · intro hlt
    -- what is left of the bound after the creation bounds the timeout in both units
    have hms : (Int64.ofNat n).toInt = n := toInt_ofNat_iff.mpr ⟨by omega, by omega⟩
    have hns : (toNanoseconds (.ofNat n)).toInt = (Int64.ofNat n).toInt * 1000000 := by
      rw [← hmillion]
      exact toInt_mul_iff.mpr (by rw [hms, hmillion]; exact ⟨by omega, by omega⟩)
    have hsum : (created + toNanoseconds (.ofNat n)).toInt =
        created.toInt + (toNanoseconds (.ofNat n)).toInt := by
      refine toInt_add_iff.mpr ?_
      rw [hns, hms]
      exact ⟨by omega, by omega⟩
    refine ⟨?_, hms, hns, by rw [hcreate]; exact hsum⟩
    unfold ModbusGateway.expired ModbusMessageInfo.TimeoutReached
    rw [hfresh, hcreate, Bool.false_or, decide_eq_true_iff, ge_iff_le, Int64.le_iff_toInt_le, hsum,
      hns, hms]
    omega

/-- A document whose master has the given timeout. -/
def Document.ofTimeout (n : UInt64) : Json :=
  Document.tcp [] (.numberUnsigned 502) (.numberUnsigned n) []

theorem Document.hasTimeout_thousand :
    Config.HasTimeout Document.contrib (Document.ofTimeout 1000) 1000 1000 :=
  ⟨Document.config 1 502 1000 [], _, 0, _, _, _, ⟨by decide +kernel, by decide +kernel⟩, rfl, rfl,
    rfl, rfl, ⟨⟨[]⟩, by decide +kernel⟩, rfl⟩

/-- A request that is created at 5 s expires at 6 s. -/
theorem Config.expiryExact_thousand :
    ExpiryExact 1000 1000 6000000000 (⟨.new 5000000000 1 1, ()⟩ : ModbusMessage Unit) :=
  (Config.expiryExact_iff Document.hasTimeout_thousand rfl (by decide)).mpr (by decide)

/-- With a `timeout_ms` of 9223372036855 a request expires at once. -/
theorem Config.expiryExact_overflow :
    Config.HasTimeout Document.contrib (Document.ofTimeout 9223372036855) 9223372036855
      9223372036855 ∧
    expired 9223372036855 0 (⟨.new 0 1 1, ()⟩ : ModbusMessage Unit) = true ∧
    ¬ ExpiryExact 9223372036855 9223372036855 0 (⟨.new 0 1 1, ()⟩ : ModbusMessage Unit) := by
  refine ⟨⟨Document.config 1 502 9223372036855 [], _, 0, _, _, _,
    ⟨by decide +kernel, by decide +kernel⟩, rfl, rfl, rfl, rfl, ⟨⟨[]⟩, by decide +kernel⟩, rfl⟩,
    by decide, fun h => ?_⟩
  exact absurd (h.expired.mp (by decide)) (by decide)

end ModbusGateway
