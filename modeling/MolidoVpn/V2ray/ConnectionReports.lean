import MolidoVpn.Lib.Sha256
import MolidoVpn.V2ray.ShareLine

/-!
`ConnectionReports.fingerprint`, and the text of a share line that it is taken over: the uri that
parsing leaves.
-/

namespace MolidoVpn.V2ray

open Kotlin (isWhitespace trim substringBefore substringBeforeOr substringAfter)
open Sha256 (digest hexText)
open Text (splitAround)

/-- The first 16 hexadecimal digits over the identity without its fragment. -/
def fingerprint (identity : List Char) : List Char :=
  (hexText (digest (Utf8.encode (trim (substringBefore ['#'] identity))))).take 16

section Reported

variable (platform : Platform)

def schemeOf (raw : List Char) : List Char :=
  lower platform (substringBeforeOr "://".toList [] (trim raw))

/-- What is read from base64 in a vmess line. -/
def payloadOf (raw : List Char) : List Char :=
  trim (substringBefore ['#'] (substringAfter "://".toList (trim raw)))

/-- The uri of a line, by the scheme that it is read under. -/
def reportedText (raw : List Char) : List Char :=
  let core := trim (substringBefore ['#'] raw)
  if schemeOf platform raw = "vmess".toList then "vmess://".toList ++ payloadOf raw
  else if schemeOf platform raw = "hysteria2".toList ∨ schemeOf platform raw = "hy2".toList then
    "hysteria2://".toList ++ substringAfter "://".toList core
  else core

variable {platform} {line raw : List Char} {node : V2rayNode}

/-- The white space in front of a line is no part of its core. -/
theorem trim_substringBefore_trim (raw : List Char) :
    trim (substringBefore ['#'] (trim raw)) = trim (substringBefore ['#'] raw) := by
  by_cases member : '#' ∈ raw
  · obtain ⟨before, after, rfl, clear⟩ := List.eq_append_cons_of_mem member
    have clear' : '#' ∉ before.dropWhile isWhitespace :=
      fun there => clear ((List.dropWhile_suffix isWhitespace).subset there)
    rw [Kotlin.trim_append_cons (by decide), Kotlin.substringBefore_append clear',
      Kotlin.substringBefore_append clear, Kotlin.trim_dropWhile]
  · have missing : '#' ∉ trim raw := fun there => member (Kotlin.trim_subset raw there)
    rw [Kotlin.substringBefore_of_notMem missing, Kotlin.substringBefore_of_notMem member,
      Kotlin.trim_trim]

/-- The uri of a node is the reported text of the line that it was read from. -/
theorem uri_parseOne (read : parseOne platform raw = some node) :
    node.uri = reportedText platform raw := by
  obtain ⟨plain, parsed, rfl⟩ := Option.map_eq_some_iff.mp read
  change plain.uri = _
  have core := trim_substringBefore_trim raw
  rw [← schemeOf] at parsed
  unfold parseScheme at parsed
  unfold reportedText
  by_cases vmess : schemeOf platform raw = "vmess".toList
  · rw [if_pos vmess]
    rw [vmess, if_neg (by decide), if_neg (by decide), if_pos rfl] at parsed
    exact (parseVmess_uri parsed).1
  · rw [if_neg vmess]
    by_cases hysteria : schemeOf platform raw = "hysteria2".toList ∨ schemeOf platform raw = "hy2".toList
    · rw [if_pos hysteria, ← core]
      have others : schemeOf platform raw ≠ "vless".toList ∧ schemeOf platform raw ≠ "trojan".toList ∧
          schemeOf platform raw ≠ "ss".toList := by
        rcases hysteria with same | same <;> rw [same] <;> decide
      rw [if_neg others.1, if_neg others.2.1, if_neg vmess, if_neg others.2.2, if_pos hysteria] at parsed
      exact (parseHysteria2_uri parsed).1
    · rw [if_neg hysteria, ← core]
      rw [if_neg vmess, if_neg hysteria] at parsed
      split at parsed
      · exact (parseVlessOrTrojan_uri parsed).1
      split at parsed
      · exact (parseVlessOrTrojan_uri parsed).1
      split at parsed
      · exact (parseShadowsocks_uri parsed).1
      split at parsed
      · exact (parseTuic_uri parsed).1
      split at parsed
      · exact (parseAnyTls_uri parsed).1
      · cases parsed

end Reported

section Core

variable {platform : Platform} {raw other before after : List Char}

private theorem dropWhile_link (linked : (splitAround "://".toList raw).isSome = true) :
    ∃ before after,
      splitAround "://".toList (raw.dropWhile isWhitespace) = some (before, after) := by
  obtain ⟨first, last, same⟩ := Text.splitAround_isSome_iff.mp linked
  have kept : raw.dropWhile isWhitespace = first.dropWhile isWhitespace ++ "://".toList ++ last := by
    have whole := Text.dropWhile_append_cons (by decide : isWhitespace ':' = false) first
      ('/' :: '/' :: last)
    rw [← same, List.append_assoc, List.append_assoc]
    exact whole
  have found : (splitAround "://".toList (raw.dropWhile isWhitespace)).isSome = true :=
    Text.splitAround_isSome_iff.mpr ⟨_, _, kept.symm⟩
  obtain ⟨⟨before, after⟩, split⟩ := Option.isSome_iff_exists.mp found
  exact ⟨before, after, split⟩

/-- The scheme and the payload of a line are those of its core. -/
private theorem parts_of_split
    (split : splitAround "://".toList ((substringBefore ['#'] raw).dropWhile isWhitespace) =
      some (before, after)) :
    substringBeforeOr "://".toList [] (trim raw) = before ∧ payloadOf raw = trim after := by
  have whole := Text.splitAround_eq_append split
  have clear : '#' ∉ (substringBefore ['#'] raw).dropWhile isWhitespace := fun member =>
    Kotlin.notMem_substringBefore '#' raw ((List.dropWhile_suffix isWhitespace).subset member)
  have clearAfter : '#' ∉ after := by
    intro member
    rw [whole] at clear
    exact clear (List.mem_append_right _ (List.mem_append_right _ member))
  by_cases member : '#' ∈ raw
  · obtain ⟨core, fragment, rfl, free⟩ := List.eq_append_cons_of_mem member
    rw [Kotlin.substringBefore_append free] at split whole
    have trimmed : trim (core ++ '#' :: fragment) =
        before ++ ("://".toList ++ (after ++ '#' :: fragment.rdropWhile isWhitespace)) := by
      rw [Kotlin.trim_append_cons (by decide), whole]
      simp only [List.append_assoc]
    have there := Text.splitAround_replace split (after ++ '#' :: fragment.rdropWhile isWhitespace)
    rw [payloadOf, substringBeforeOr, substringAfter, Kotlin.substringAfterOr, trimmed, there]
    exact ⟨rfl, congrArg trim (Kotlin.substringBefore_append clearAfter _)⟩
  · rw [Kotlin.substringBefore_of_notMem member] at split whole
    have trimmed : trim raw = before ++ ("://".toList ++ after.rdropWhile isWhitespace) := by
      have ends := Text.rdropWhile_append_cons (by decide : isWhitespace '/' = false)
        (before ++ [':', '/']) after
      simp only [List.append_assoc, List.cons_append, List.nil_append] at ends
      rw [trim, ← List.rdropWhile, whole]
      exact ends
    have there := Text.splitAround_replace split (after.rdropWhile isWhitespace)
    have free : '#' ∉ after.rdropWhile isWhitespace := fun inside =>
      clearAfter ((List.rdropWhile_prefix isWhitespace _).subset inside)
    rw [payloadOf, substringBeforeOr, substringAfter, Kotlin.substringAfterOr, trimmed, there]
    exact ⟨rfl, by rw [← Kotlin.trim_rdropWhile after]; exact congrArg trim (Kotlin.substringBefore_of_notMem free)⟩

/-- A line is reported by its core alone, once there is a scheme in it. -/
theorem reportedText_of_core (linked : (splitAround "://".toList (substringBefore ['#'] raw)).isSome = true)
    (same : substringBefore ['#'] other = substringBefore ['#'] raw) :
    reportedText platform other = reportedText platform raw := by
  obtain ⟨before, after, split⟩ := dropWhile_link linked
  obtain ⟨scheme, payload⟩ := parts_of_split split
  rw [← same] at split
  obtain ⟨scheme', payload'⟩ := parts_of_split split
  unfold reportedText schemeOf
  rw [scheme, scheme', payload, payload', same]

/-- What ends where white space was taken off ends so behind a scheme. -/
private theorem trim_behind {start text : List Char} (tight : start.dropWhile isWhitespace = start)
    (ends : text.rdropWhile isWhitespace = text) : trim (start ++ '/' :: text) = start ++ '/' :: text := by
  rw [Kotlin.trim_append_cons (by decide), tight, ends]

private theorem rdropWhile_substringAfter {text : List Char}
    (ends : text.rdropWhile isWhitespace = text) :
    (substringAfter "://".toList text).rdropWhile isWhitespace = substringAfter "://".toList text := by
  rw [substringAfter, Kotlin.substringAfterOr]
  cases split : splitAround "://".toList text with
  | none => exact ends
  | some parts =>
      have whole := Text.splitAround_eq_append split
      have last := Text.rdropWhile_append_cons (by decide : isWhitespace '/' = false)
        (parts.1 ++ [':', '/']) parts.2
      have same : parts.1 ++ [':', '/'] ++ '/' :: parts.2 = text := by
        rw [whole, List.append_assoc]
        rfl
      rw [same, ends, ← same, List.append_cancel_left_eq, List.cons.injEq] at last
      exact last.2.symm

/-- Nothing is taken off the reported text before it is hashed. -/
theorem trim_reportedText (raw : List Char) :
    trim (substringBefore ['#'] (reportedText platform raw)) = reportedText platform raw := by
  have free : '#' ∉ trim (substringBefore ['#'] raw) := fun member =>
    Kotlin.notMem_substringBefore '#' raw (Kotlin.trim_subset _ member)
  have ends : (trim (substringBefore ['#'] raw)).rdropWhile isWhitespace =
      trim (substringBefore ['#'] raw) :=
    Text.rdropWhile_strip _
  unfold reportedText
  dsimp only
  split
  · have clear : '#' ∉ "vmess://".toList ++ payloadOf raw := by
      intro member
      rcases List.mem_append.mp member with scheme | payload
      · exact absurd scheme (by decide)
      · exact Kotlin.notMem_substringBefore '#' _ (Kotlin.trim_subset _ payload)
    rw [Kotlin.substringBefore_of_notMem clear]
    exact trim_behind (by decide : "vmess:/".toList.dropWhile isWhitespace = "vmess:/".toList)
      (Text.rdropWhile_strip _)
  split
  · have clear : '#' ∉ "hysteria2://".toList ++
        substringAfter "://".toList (trim (substringBefore ['#'] raw)) := by
      intro member
      rcases List.mem_append.mp member with scheme | rest
      · exact absurd scheme (by decide)
      · exact free (Kotlin.substringAfter_subset _ _ rest)
    rw [Kotlin.substringBefore_of_notMem clear]
    exact trim_behind (by decide : "hysteria2:/".toList.dropWhile isWhitespace = "hysteria2:/".toList)
      (rdropWhile_substringAfter ends)
  · rw [Kotlin.substringBefore_of_notMem free, Kotlin.trim_trim]

end Core

end MolidoVpn.V2ray
