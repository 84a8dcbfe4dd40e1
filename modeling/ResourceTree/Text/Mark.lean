import ResourceTree.Text.Table

/-!
# Marks

Characters that belong to the one before them: accents, vowel signs and enclosing shapes.
-/

namespace ResourceTree.Text
set_option autoImplicit false

/-- The code points at which membership of the marks flips, starting outside them. -/
def markFlips : Table := .ofLines [
  "300 370 483 48a 591 5be 5bf 5c0 5c1 5c3 5c4 5c6 5c7 5c8 610 61b 64b 660 670 671 6d6 6dd 6df",
  "6e5 6e7 6e9 6ea 6ee 711 712 730 74b 7a6 7b1 7eb 7f4 7fd 7fe 816 81a 81b 824 825 828 829 82e",
  "859 85c 897 8a0 8ca 8e2 8e3 904 93a 93d 93e 950 951 958 962 964 981 984 9bc 9bd 9be 9c5 9c7",
  "9c9 9cb 9ce 9d7 9d8 9e2 9e4 9fe 9ff a01 a04 a3c a3d a3e a43 a47 a49 a4b a4e a51 a52 a70 a72",
  "a75 a76 a81 a84 abc abd abe ac6 ac7 aca acb ace ae2 ae4 afa b00 b01 b04 b3c b3d b3e b45 b47",
  "b49 b4b b4e b55 b58 b62 b64 b82 b83 bbe bc3 bc6 bc9 bca bce bd7 bd8 c00 c05 c3c c3d c3e c45",
  "c46 c49 c4a c4e c55 c57 c62 c64 c81 c84 cbc cbd cbe cc5 cc6 cc9 cca cce cd5 cd7 ce2 ce4 cf3",
  "cf4 d00 d04 d3b d3d d3e d45 d46 d49 d4a d4e d57 d58 d62 d64 d81 d84 dca dcb dcf dd5 dd6 dd7",
  "dd8 de0 df2 df4 e31 e32 e34 e3b e47 e4f eb1 eb2 eb4 ebd ec8 ecf f18 f1a f35 f36 f37 f38 f39",
  "f3a f3e f40 f71 f85 f86 f88 f8d f98 f99 fbd fc6 fc7 102b 103f 1056 105a 105e 1061 1062 1065",
  "1067 106e 1071 1075 1082 108e 108f 1090 109a 109e 135d 1360 1712 1716 1732 1735 1752 1754 1772",
  "1774 17b4 17d4 17dd 17de 180b 180e 180f 1810 1885 1887 18a9 18aa 1920 192c 1930 193c 1a17 1a1c",
  "1a55 1a5f 1a60 1a7d 1a7f 1a80 1ab0 1ade 1ae0 1aec 1b00 1b05 1b34 1b45 1b6b 1b74 1b80 1b83 1ba1",
  "1bae 1be6 1bf4 1c24 1c38 1cd0 1cd3 1cd4 1ce9 1ced 1cee 1cf4 1cf5 1cf7 1cfa 1dc0 1e00 20d0 20f1",
  "2cef 2cf2 2d7f 2d80 2de0 2e00 302a 3030 3099 309b a66f a673 a674 a67e a69e a6a0 a6f0 a6f2 a802",
  "a803 a806 a807 a80b a80c a823 a828 a82c a82d a880 a882 a8b4 a8c6 a8e0 a8f2 a8ff a900 a926 a92e",
  "a947 a954 a980 a984 a9b3 a9c1 a9e5 a9e6 aa29 aa37 aa43 aa44 aa4c aa4e aa7b aa7e aab0 aab1 aab2",
  "aab5 aab7 aab9 aabe aac0 aac1 aac2 aaeb aaf0 aaf5 aaf7 abe3 abeb abec abee fb1e fb1f fe00 fe10",
  "fe20 fe30 101fd 101fe 102e0 102e1 10376 1037b 10a01 10a04 10a05 10a07 10a0c 10a10 10a38 10a3b",
  "10a3f 10a40 10ae5 10ae7 10d24 10d28 10d69 10d6e 10eab 10ead 10efa 10f00 10f46 10f51 10f82",
  "10f86 11000 11003 11038 11047 11070 11071 11073 11075 1107f 11083 110b0 110bb 110c2 110c3",
  "11100 11103 11127 11135 11145 11147 11173 11174 11180 11183 111b3 111c1 111c9 111cd 111ce",
  "111d0 1122c 11238 1123e 1123f 11241 11242 112df 112eb 11300 11304 1133b 1133d 1133e 11345",
  "11347 11349 1134b 1134e 11357 11358 11362 11364 11366 1136d 11370 11375 113b8 113c1 113c2",
  "113c3 113c5 113c6 113c7 113cb 113cc 113d1 113d2 113d3 113e1 113e3 11435 11447 1145e 1145f",
  "114b0 114c4 115af 115b6 115b8 115c1 115dc 115de 11630 11641 116ab 116b8 1171d 1172c 1182c",
  "1183b 11930 11936 11937 11939 1193b 1193f 11940 11941 11942 11944 119d1 119d8 119da 119e1",
  "119e4 119e5 11a01 11a0b 11a33 11a3a 11a3b 11a3f 11a47 11a48 11a51 11a5c 11a8a 11a9a 11b60",
  "11b68 11c2f 11c37 11c38 11c40 11c92 11ca8 11ca9 11cb7 11d31 11d37 11d3a 11d3b 11d3c 11d3e",
  "11d3f 11d46 11d47 11d48 11d8a 11d8f 11d90 11d92 11d93 11d98 11ef3 11ef7 11f00 11f02 11f03",
  "11f04 11f34 11f3b 11f3e 11f43 11f5a 11f5b 13440 13441 13447 13456 1611e 16130 16af0 16af5",
  "16b30 16b37 16f4f 16f50 16f51 16f88 16f8f 16f93 16fe4 16fe5 16ff0 16ff2 1bc9d 1bc9f 1cf00",
  "1cf2e 1cf30 1cf47 1d165 1d16a 1d16d 1d173 1d17b 1d183 1d185 1d18c 1d1aa 1d1ae 1d242 1d245",
  "1da00 1da37 1da3b 1da6d 1da75 1da76 1da84 1da85 1da9b 1daa0 1daa1 1dab0 1e000 1e007 1e008",
  "1e019 1e01b 1e022 1e023 1e025 1e026 1e02b 1e08f 1e090 1e130 1e137 1e2ae 1e2af 1e2ec 1e2f0",
  "1e4ec 1e4f0 1e5ee 1e5f0 1e6e3 1e6e4 1e6e6 1e6e7 1e6ee 1e6f0 1e6f5 1e6f6 1e8d0 1e8d7 1e944",
  "1e94b e0100 e01f0"]

/-- A character that is no letter of its own. -/
def isMark (c : Char) : Bool :=
  markFlips.flipsAt c.toNat

end ResourceTree.Text
