/-
This file says what the names and addresses of two links of the dashboard have in common.

A link is numbered, and its id ends with a dash and the number. Its addresses carry the number as a
quotient and a remainder, between dots. So links with different numbers have different ids and
different addresses, whatever their nodes are called.
-/

import Aodvd.Dashboard
import Aodvd.AddressText

namespace Aodvd.Dashboard

open PythonText

/-! ### Texts that end or begin with a number -/

theorem decimal_injective : Function.Injective decimal := by
  intro first second same
  have read := congrArg (fun digits => Nat.ofDigitChars 10 digits 0) same
  simpa only [decimal, Nat.ofDigitChars_ten_toDigits] using read

theorem not_mem_decimal {character : Char} (other : character.isDigit = false) (number : Nat) :
    character ∉ decimal number := by
  intro found
  rw [(digits_decimal number).digit character found] at other
  exact nomatch other

/-- What follows the last occurrence of a character is determined. -/
theorem eq_of_append_cons {mark : Char} {first second before after : List Char}
    (same : before ++ mark :: first = after ++ mark :: second) (absent : mark ∉ first)
    (missing : mark ∉ second) : first = second := by
  rcases List.append_eq_append_iff.mp same with ⟨between, _, rest⟩ | ⟨between, _, rest⟩
  · cases between with
    | nil => exact (List.cons.inj rest).2
    | cons _ between =>
      refine absurd ?_ absent
      rw [(List.cons.inj rest).2]
      exact List.mem_append_right _ List.mem_cons_self
  · cases between with
    | nil => exact (List.cons.inj rest).2.symm
    | cons _ between =>
      refine absurd ?_ missing
      rw [(List.cons.inj rest).2]
      exact List.mem_append_right _ List.mem_cons_self

/-- What precedes the first occurrence of a character is determined, and so is what follows. -/
theorem cut_of_append_cons {mark : Char} {first second before after : List Char}
    (same : first ++ mark :: before = second ++ mark :: after) (absent : mark ∉ first)
    (missing : mark ∉ second) : first = second ∧ before = after := by
  rcases List.append_eq_append_iff.mp same with ⟨between, rfl, rest⟩ | ⟨between, rfl, rest⟩
  · cases between with
    | nil => exact ⟨(List.append_nil _).symm, (List.cons.inj rest).2⟩
    | cons character between =>
      obtain rfl := (List.cons.inj rest).1
      exact absurd (List.mem_append_right _ List.mem_cons_self) missing
  · cases between with
    | nil => exact ⟨List.append_nil _, (List.cons.inj rest).2.symm⟩
    | cons character between =>
      obtain rfl := (List.cons.inj rest).1
      exact absurd (List.mem_append_right _ List.mem_cons_self) absent

/-! ### Numbers of links -/

theorem newWire_id (src dst : List Char) (index : Nat) :
    (newWire src dst index).id = (src ++ "--".toList ++ dst ++ ['-']) ++ '-' :: decimal index := by
  show src ++ "--".toList ++ dst ++ ['-', '-'] ++ decimal index = _
  simp only [List.append_assoc, List.cons_append, List.nil_append]

theorem index_of_id {src dst otherSrc otherDst : List Char} {index other : Nat}
    (same : (newWire src dst index).id = (newWire otherSrc otherDst other).id) : index = other := by
  rw [newWire_id, newWire_id] at same
  exact decimal_injective (eq_of_append_cons same (not_mem_decimal rfl index)
    (not_mem_decimal rfl other))

/-- The address of a link that ends with a given host. -/
def linkIp (host : List Char) (index : Nat) : List Char :=
  '1' :: '0' :: '.' :: (decimal (index / 255) ++ '.' :: (decimal (index % 255 + 1) ++ '.' :: host))

theorem linkIps_eq (index : Nat) : linkIps index = (linkIp ['1'] index, linkIp ['2'] index) := by
  unfold linkIps linkIp
  simp only [List.append_assoc]
  rfl

/-- An address of a link determines its number and its host. -/
theorem linkIp_inj {host guest : List Char} {index other : Nat}
    (same : linkIp host index = linkIp guest other) : index = other ∧ host = guest := by
  have tails := (List.cons.inj (List.cons.inj (List.cons.inj same).2).2).2
  have high := cut_of_append_cons tails (not_mem_decimal rfl _) (not_mem_decimal rfl _)
  have low := cut_of_append_cons high.2 (not_mem_decimal rfl _) (not_mem_decimal rfl _)
  have quotient := decimal_injective high.1
  have remainder := decimal_injective low.1
  refine ⟨?_, low.2⟩
  omega

/-- Two links have neither their id nor an address in common. -/
structure Apart (first second : Wire) : Prop where
  id : first.id ≠ second.id
  ips : List.Disjoint [first.ipSrc, first.ipDst] [second.ipSrc, second.ipDst]

theorem Apart.symm {first second : Wire} (apart : Apart first second) : Apart second first :=
  ⟨apart.id.symm, fun _ found shared => apart.ips shared found⟩

theorem mem_ips {src dst : List Char} {index : Nat} {ip : List Char}
    (found : ip ∈ [(newWire src dst index).ipSrc, (newWire src dst index).ipDst]) :
    ∃ host, ip = linkIp host index := by
  have ips : [(newWire src dst index).ipSrc, (newWire src dst index).ipDst] =
      [linkIp ['1'] index, linkIp ['2'] index] := by
    show [(linkIps index).1, (linkIps index).2] = _
    rw [linkIps_eq]
  rw [ips, List.mem_pair] at found
  rcases found with rfl | rfl
  · exact ⟨_, rfl⟩
  · exact ⟨_, rfl⟩

theorem apart_newWire {src dst otherSrc otherDst : List Char} {index other : Nat}
    (different : index ≠ other) :
    Apart (newWire src dst index) (newWire otherSrc otherDst other) where
  id same := different (index_of_id same)
  ips := by
    intro ip found shared
    obtain ⟨host, rfl⟩ := mem_ips found
    obtain ⟨guest, same⟩ := mem_ips shared
    exact different (linkIp_inj same).1

end Aodvd.Dashboard
