/-!
# Characters that host names spell out

Ligatures, numbers in parentheses, squared words and other characters that stand for
several characters each.
-/

namespace FleetGate.Domain

/-- Ligatures of alphabets. -/
def letterLigatures : List (Nat × List Nat) := [
  (0xa8, [0x20, 0x308]), (0xaf, [0x20, 0x304]), (0xb4, [0x20, 0x301]), (0xb8, [0x20, 0x327]),
  (0xbc, [0x31, 0x2044, 0x34]), (0xbd, [0x31, 0x2044, 0x32]), (0xbe, [0x33, 0x2044, 0x34]),
  (0x130, [0x69, 0x307]), (0x132, [0x69, 0x6a]), (0x133, [0x69, 0x6a]), (0x13f, [0x6c, 0xb7]),
  (0x140, [0x6c, 0xb7]), (0x149, [0x2bc, 0x6e]), (0x1c4, [0x64, 0x17e]), (0x1c5, [0x64, 0x17e]),
  (0x1c6, [0x64, 0x17e]), (0x1c7, [0x6c, 0x6a]), (0x1c8, [0x6c, 0x6a]), (0x1c9, [0x6c, 0x6a]),
  (0x1ca, [0x6e, 0x6a]), (0x1cb, [0x6e, 0x6a]), (0x1cc, [0x6e, 0x6a]), (0x1f1, [0x64, 0x7a]),
  (0x1f2, [0x64, 0x7a]), (0x1f3, [0x64, 0x7a]), (0x2d8, [0x20, 0x306]), (0x2d9, [0x20, 0x307]),
  (0x2da, [0x20, 0x30a]), (0x2db, [0x20, 0x328]), (0x2dc, [0x20, 0x303]), (0x2dd, [0x20, 0x30b]),
  (0x344, [0x308, 0x301]), (0x37a, [0x20, 0x3b9]), (0x384, [0x20, 0x301]),
  (0x385, [0x20, 0x308, 0x301]), (0x587, [0x565, 0x582]), (0x675, [0x627, 0x674]),
  (0x676, [0x648, 0x674]), (0x677, [0x6c7, 0x674]), (0x678, [0x64a, 0x674]),
  (0x958, [0x915, 0x93c]), (0x959, [0x916, 0x93c]), (0x95a, [0x917, 0x93c]),
  (0x95b, [0x91c, 0x93c]), (0x95c, [0x921, 0x93c]), (0x95d, [0x922, 0x93c]),
  (0x95e, [0x92b, 0x93c]), (0x95f, [0x92f, 0x93c]), (0x9dc, [0x9a1, 0x9bc]),
  (0x9dd, [0x9a2, 0x9bc]), (0x9df, [0x9af, 0x9bc]), (0xa33, [0xa32, 0xa3c]),
  (0xa36, [0xa38, 0xa3c]), (0xa59, [0xa16, 0xa3c]), (0xa5a, [0xa17, 0xa3c]),
  (0xa5b, [0xa1c, 0xa3c]), (0xa5e, [0xa2b, 0xa3c]), (0xb5c, [0xb21, 0xb3c]),
  (0xb5d, [0xb22, 0xb3c]), (0xe33, [0xe4d, 0xe32]), (0xeb3, [0xecd, 0xeb2]),
  (0xedc, [0xeab, 0xe99]), (0xedd, [0xeab, 0xea1]), (0xf43, [0xf42, 0xfb7]),
  (0xf4d, [0xf4c, 0xfb7]), (0xf52, [0xf51, 0xfb7]), (0xf57, [0xf56, 0xfb7]),
  (0xf5c, [0xf5b, 0xfb7]), (0xf69, [0xf40, 0xfb5]), (0xf73, [0xf71, 0xf72]),
  (0xf75, [0xf71, 0xf74]), (0xf76, [0xfb2, 0xf80]), (0xf77, [0xfb2, 0xf71, 0xf80]),
  (0xf78, [0xfb3, 0xf80]), (0xf79, [0xfb3, 0xf71, 0xf80]), (0xf81, [0xf71, 0xf80]),
  (0xf93, [0xf92, 0xfb7]), (0xf9d, [0xf9c, 0xfb7]), (0xfa2, [0xfa1, 0xfb7]),
  (0xfa7, [0xfa6, 0xfb7]), (0xfac, [0xfab, 0xfb7]), (0xfb9, [0xf90, 0xfb5]),
  (0x1e9a, [0x61, 0x2be]), (0x1f80, [0x1f00, 0x3b9]), (0x1f81, [0x1f01, 0x3b9]),
  (0x1f82, [0x1f02, 0x3b9]), (0x1f83, [0x1f03, 0x3b9]), (0x1f84, [0x1f04, 0x3b9]),
  (0x1f85, [0x1f05, 0x3b9]), (0x1f86, [0x1f06, 0x3b9]), (0x1f87, [0x1f07, 0x3b9]),
  (0x1f88, [0x1f00, 0x3b9]), (0x1f89, [0x1f01, 0x3b9]), (0x1f8a, [0x1f02, 0x3b9]),
  (0x1f8b, [0x1f03, 0x3b9]), (0x1f8c, [0x1f04, 0x3b9]), (0x1f8d, [0x1f05, 0x3b9]),
  (0x1f8e, [0x1f06, 0x3b9]), (0x1f8f, [0x1f07, 0x3b9]), (0x1f90, [0x1f20, 0x3b9]),
  (0x1f91, [0x1f21, 0x3b9]), (0x1f92, [0x1f22, 0x3b9]), (0x1f93, [0x1f23, 0x3b9]),
  (0x1f94, [0x1f24, 0x3b9]), (0x1f95, [0x1f25, 0x3b9]), (0x1f96, [0x1f26, 0x3b9]),
  (0x1f97, [0x1f27, 0x3b9]), (0x1f98, [0x1f20, 0x3b9]), (0x1f99, [0x1f21, 0x3b9]),
  (0x1f9a, [0x1f22, 0x3b9]), (0x1f9b, [0x1f23, 0x3b9]), (0x1f9c, [0x1f24, 0x3b9]),
  (0x1f9d, [0x1f25, 0x3b9]), (0x1f9e, [0x1f26, 0x3b9]), (0x1f9f, [0x1f27, 0x3b9]),
  (0x1fa0, [0x1f60, 0x3b9]), (0x1fa1, [0x1f61, 0x3b9]), (0x1fa2, [0x1f62, 0x3b9]),
  (0x1fa3, [0x1f63, 0x3b9]), (0x1fa4, [0x1f64, 0x3b9]), (0x1fa5, [0x1f65, 0x3b9]),
  (0x1fa6, [0x1f66, 0x3b9]), (0x1fa7, [0x1f67, 0x3b9]), (0x1fa8, [0x1f60, 0x3b9]),
  (0x1fa9, [0x1f61, 0x3b9]), (0x1faa, [0x1f62, 0x3b9]), (0x1fab, [0x1f63, 0x3b9]),
  (0x1fac, [0x1f64, 0x3b9]), (0x1fad, [0x1f65, 0x3b9]), (0x1fae, [0x1f66, 0x3b9]),
  (0x1faf, [0x1f67, 0x3b9]), (0x1fb2, [0x1f70, 0x3b9]), (0x1fb3, [0x3b1, 0x3b9]),
  (0x1fb4, [0x3ac, 0x3b9]), (0x1fb7, [0x1fb6, 0x3b9]), (0x1fbc, [0x3b1, 0x3b9]),
  (0x1fbd, [0x20, 0x313]), (0x1fbf, [0x20, 0x313]), (0x1fc0, [0x20, 0x342]),
  (0x1fc1, [0x20, 0x308, 0x342]), (0x1fc2, [0x1f74, 0x3b9]), (0x1fc3, [0x3b7, 0x3b9]),
  (0x1fc4, [0x3ae, 0x3b9]), (0x1fc7, [0x1fc6, 0x3b9]), (0x1fcc, [0x3b7, 0x3b9]),
  (0x1fcd, [0x20, 0x313, 0x300]), (0x1fce, [0x20, 0x313, 0x301]), (0x1fcf, [0x20, 0x313, 0x342]),
  (0x1fdd, [0x20, 0x314, 0x300]), (0x1fde, [0x20, 0x314, 0x301]), (0x1fdf, [0x20, 0x314, 0x342]),
  (0x1fed, [0x20, 0x308, 0x300]), (0x1fee, [0x20, 0x308, 0x301]), (0x1ff2, [0x1f7c, 0x3b9]),
  (0x1ff3, [0x3c9, 0x3b9]), (0x1ff4, [0x3ce, 0x3b9]), (0x1ff7, [0x1ff6, 0x3b9]),
  (0x1ffc, [0x3c9, 0x3b9]), (0x1ffd, [0x20, 0x301]), (0x1ffe, [0x20, 0x314])]

/-- Signs, numbers and abbreviations. -/
def signs : List (Nat × List Nat) := [
  (0x2017, [0x20, 0x333]), (0x2033, [0x2032, 0x2032]), (0x2034, [0x2032, 0x2032, 0x2032]),
  (0x2036, [0x2035, 0x2035]), (0x2037, [0x2035, 0x2035, 0x2035]), (0x203c, [0x21, 0x21]),
  (0x203e, [0x20, 0x305]), (0x2047, [0x3f, 0x3f]), (0x2048, [0x3f, 0x21]), (0x2049, [0x21, 0x3f]),
  (0x2057, [0x2032, 0x2032, 0x2032, 0x2032]), (0x20a8, [0x72, 0x73]),
  (0x2100, [0x61, 0x2f, 0x63]), (0x2101, [0x61, 0x2f, 0x73]), (0x2103, [0xb0, 0x63]),
  (0x2105, [0x63, 0x2f, 0x6f]), (0x2106, [0x63, 0x2f, 0x75]), (0x2109, [0xb0, 0x66]),
  (0x2116, [0x6e, 0x6f]), (0x2120, [0x73, 0x6d]), (0x2121, [0x74, 0x65, 0x6c]),
  (0x2122, [0x74, 0x6d]), (0x213b, [0x66, 0x61, 0x78]), (0x2150, [0x31, 0x2044, 0x37]),
  (0x2151, [0x31, 0x2044, 0x39]), (0x2152, [0x31, 0x2044, 0x31, 0x30]),
  (0x2153, [0x31, 0x2044, 0x33]), (0x2154, [0x32, 0x2044, 0x33]), (0x2155, [0x31, 0x2044, 0x35]),
  (0x2156, [0x32, 0x2044, 0x35]), (0x2157, [0x33, 0x2044, 0x35]), (0x2158, [0x34, 0x2044, 0x35]),
  (0x2159, [0x31, 0x2044, 0x36]), (0x215a, [0x35, 0x2044, 0x36]), (0x215b, [0x31, 0x2044, 0x38]),
  (0x215c, [0x33, 0x2044, 0x38]), (0x215d, [0x35, 0x2044, 0x38]), (0x215e, [0x37, 0x2044, 0x38]),
  (0x215f, [0x31, 0x2044]), (0x2161, [0x69, 0x69]), (0x2162, [0x69, 0x69, 0x69]),
  (0x2163, [0x69, 0x76]), (0x2165, [0x76, 0x69]), (0x2166, [0x76, 0x69, 0x69]),
  (0x2167, [0x76, 0x69, 0x69, 0x69]), (0x2168, [0x69, 0x78]), (0x216a, [0x78, 0x69]),
  (0x216b, [0x78, 0x69, 0x69]), (0x2171, [0x69, 0x69]), (0x2172, [0x69, 0x69, 0x69]),
  (0x2173, [0x69, 0x76]), (0x2175, [0x76, 0x69]), (0x2176, [0x76, 0x69, 0x69]),
  (0x2177, [0x76, 0x69, 0x69, 0x69]), (0x2178, [0x69, 0x78]), (0x217a, [0x78, 0x69]),
  (0x217b, [0x78, 0x69, 0x69]), (0x2189, [0x30, 0x2044, 0x33]), (0x222c, [0x222b, 0x222b]),
  (0x222d, [0x222b, 0x222b, 0x222b]), (0x222f, [0x222e, 0x222e]),
  (0x2230, [0x222e, 0x222e, 0x222e]), (0x2469, [0x31, 0x30]), (0x246a, [0x31, 0x31]),
  (0x246b, [0x31, 0x32]), (0x246c, [0x31, 0x33]), (0x246d, [0x31, 0x34]), (0x246e, [0x31, 0x35]),
  (0x246f, [0x31, 0x36]), (0x2470, [0x31, 0x37]), (0x2471, [0x31, 0x38]), (0x2472, [0x31, 0x39]),
  (0x2473, [0x32, 0x30]), (0x2474, [0x28, 0x31, 0x29]), (0x2475, [0x28, 0x32, 0x29]),
  (0x2476, [0x28, 0x33, 0x29]), (0x2477, [0x28, 0x34, 0x29]), (0x2478, [0x28, 0x35, 0x29]),
  (0x2479, [0x28, 0x36, 0x29]), (0x247a, [0x28, 0x37, 0x29]), (0x247b, [0x28, 0x38, 0x29]),
  (0x247c, [0x28, 0x39, 0x29]), (0x247d, [0x28, 0x31, 0x30, 0x29]),
  (0x247e, [0x28, 0x31, 0x31, 0x29]), (0x247f, [0x28, 0x31, 0x32, 0x29]),
  (0x2480, [0x28, 0x31, 0x33, 0x29]), (0x2481, [0x28, 0x31, 0x34, 0x29]),
  (0x2482, [0x28, 0x31, 0x35, 0x29]), (0x2483, [0x28, 0x31, 0x36, 0x29]),
  (0x2484, [0x28, 0x31, 0x37, 0x29]), (0x2485, [0x28, 0x31, 0x38, 0x29]),
  (0x2486, [0x28, 0x31, 0x39, 0x29]), (0x2487, [0x28, 0x32, 0x30, 0x29]),
  (0x249c, [0x28, 0x61, 0x29]), (0x249d, [0x28, 0x62, 0x29]), (0x249e, [0x28, 0x63, 0x29]),
  (0x249f, [0x28, 0x64, 0x29]), (0x24a0, [0x28, 0x65, 0x29]), (0x24a1, [0x28, 0x66, 0x29]),
  (0x24a2, [0x28, 0x67, 0x29]), (0x24a3, [0x28, 0x68, 0x29]), (0x24a4, [0x28, 0x69, 0x29]),
  (0x24a5, [0x28, 0x6a, 0x29]), (0x24a6, [0x28, 0x6b, 0x29]), (0x24a7, [0x28, 0x6c, 0x29]),
  (0x24a8, [0x28, 0x6d, 0x29]), (0x24a9, [0x28, 0x6e, 0x29]), (0x24aa, [0x28, 0x6f, 0x29]),
  (0x24ab, [0x28, 0x70, 0x29]), (0x24ac, [0x28, 0x71, 0x29]), (0x24ad, [0x28, 0x72, 0x29]),
  (0x24ae, [0x28, 0x73, 0x29]), (0x24af, [0x28, 0x74, 0x29]), (0x24b0, [0x28, 0x75, 0x29]),
  (0x24b1, [0x28, 0x76, 0x29]), (0x24b2, [0x28, 0x77, 0x29]), (0x24b3, [0x28, 0x78, 0x29]),
  (0x24b4, [0x28, 0x79, 0x29]), (0x24b5, [0x28, 0x7a, 0x29]),
  (0x2a0c, [0x222b, 0x222b, 0x222b, 0x222b]), (0x2a74, [0x3a, 0x3a, 0x3d]),
  (0x2a75, [0x3d, 0x3d]), (0x2a76, [0x3d, 0x3d, 0x3d]), (0x2adc, [0x2add, 0x338])]

/-- Words in parentheses and circles, months and days. -/
def circledWords : List (Nat × List Nat) := [
  (0x309b, [0x20, 0x3099]), (0x309c, [0x20, 0x309a]), (0x309f, [0x3088, 0x308a]),
  (0x30ff, [0x30b3, 0x30c8]), (0x3200, [0x28, 0x1100, 0x29]), (0x3201, [0x28, 0x1102, 0x29]),
  (0x3202, [0x28, 0x1103, 0x29]), (0x3203, [0x28, 0x1105, 0x29]), (0x3204, [0x28, 0x1106, 0x29]),
  (0x3205, [0x28, 0x1107, 0x29]), (0x3206, [0x28, 0x1109, 0x29]), (0x3207, [0x28, 0x110b, 0x29]),
  (0x3208, [0x28, 0x110c, 0x29]), (0x3209, [0x28, 0x110e, 0x29]), (0x320a, [0x28, 0x110f, 0x29]),
  (0x320b, [0x28, 0x1110, 0x29]), (0x320c, [0x28, 0x1111, 0x29]), (0x320d, [0x28, 0x1112, 0x29]),
  (0x320e, [0x28, 0xac00, 0x29]), (0x320f, [0x28, 0xb098, 0x29]), (0x3210, [0x28, 0xb2e4, 0x29]),
  (0x3211, [0x28, 0xb77c, 0x29]), (0x3212, [0x28, 0xb9c8, 0x29]), (0x3213, [0x28, 0xbc14, 0x29]),
  (0x3214, [0x28, 0xc0ac, 0x29]), (0x3215, [0x28, 0xc544, 0x29]), (0x3216, [0x28, 0xc790, 0x29]),
  (0x3217, [0x28, 0xcc28, 0x29]), (0x3218, [0x28, 0xce74, 0x29]), (0x3219, [0x28, 0xd0c0, 0x29]),
  (0x321a, [0x28, 0xd30c, 0x29]), (0x321b, [0x28, 0xd558, 0x29]), (0x321c, [0x28, 0xc8fc, 0x29]),
  (0x321d, [0x28, 0xc624, 0xc804, 0x29]), (0x321e, [0x28, 0xc624, 0xd6c4, 0x29]),
  (0x3220, [0x28, 0x4e00, 0x29]), (0x3221, [0x28, 0x4e8c, 0x29]), (0x3222, [0x28, 0x4e09, 0x29]),
  (0x3223, [0x28, 0x56db, 0x29]), (0x3224, [0x28, 0x4e94, 0x29]), (0x3225, [0x28, 0x516d, 0x29]),
  (0x3226, [0x28, 0x4e03, 0x29]), (0x3227, [0x28, 0x516b, 0x29]), (0x3228, [0x28, 0x4e5d, 0x29]),
  (0x3229, [0x28, 0x5341, 0x29]), (0x322a, [0x28, 0x6708, 0x29]), (0x322b, [0x28, 0x706b, 0x29]),
  (0x322c, [0x28, 0x6c34, 0x29]), (0x322d, [0x28, 0x6728, 0x29]), (0x322e, [0x28, 0x91d1, 0x29]),
  (0x322f, [0x28, 0x571f, 0x29]), (0x3230, [0x28, 0x65e5, 0x29]), (0x3231, [0x28, 0x682a, 0x29]),
  (0x3232, [0x28, 0x6709, 0x29]), (0x3233, [0x28, 0x793e, 0x29]), (0x3234, [0x28, 0x540d, 0x29]),
  (0x3235, [0x28, 0x7279, 0x29]), (0x3236, [0x28, 0x8ca1, 0x29]), (0x3237, [0x28, 0x795d, 0x29]),
  (0x3238, [0x28, 0x52b4, 0x29]), (0x3239, [0x28, 0x4ee3, 0x29]), (0x323a, [0x28, 0x547c, 0x29]),
  (0x323b, [0x28, 0x5b66, 0x29]), (0x323c, [0x28, 0x76e3, 0x29]), (0x323d, [0x28, 0x4f01, 0x29]),
  (0x323e, [0x28, 0x8cc7, 0x29]), (0x323f, [0x28, 0x5354, 0x29]), (0x3240, [0x28, 0x796d, 0x29]),
  (0x3241, [0x28, 0x4f11, 0x29]), (0x3242, [0x28, 0x81ea, 0x29]), (0x3243, [0x28, 0x81f3, 0x29]),
  (0x3250, [0x70, 0x74, 0x65]), (0x3251, [0x32, 0x31]), (0x3252, [0x32, 0x32]),
  (0x3253, [0x32, 0x33]), (0x3254, [0x32, 0x34]), (0x3255, [0x32, 0x35]), (0x3256, [0x32, 0x36]),
  (0x3257, [0x32, 0x37]), (0x3258, [0x32, 0x38]), (0x3259, [0x32, 0x39]), (0x325a, [0x33, 0x30]),
  (0x325b, [0x33, 0x31]), (0x325c, [0x33, 0x32]), (0x325d, [0x33, 0x33]), (0x325e, [0x33, 0x34]),
  (0x325f, [0x33, 0x35]), (0x327c, [0xcc38, 0xace0]), (0x327d, [0xc8fc, 0xc758]),
  (0x32b1, [0x33, 0x36]), (0x32b2, [0x33, 0x37]), (0x32b3, [0x33, 0x38]), (0x32b4, [0x33, 0x39]),
  (0x32b5, [0x34, 0x30]), (0x32b6, [0x34, 0x31]), (0x32b7, [0x34, 0x32]), (0x32b8, [0x34, 0x33]),
  (0x32b9, [0x34, 0x34]), (0x32ba, [0x34, 0x35]), (0x32bb, [0x34, 0x36]), (0x32bc, [0x34, 0x37]),
  (0x32bd, [0x34, 0x38]), (0x32be, [0x34, 0x39]), (0x32bf, [0x35, 0x30]),
  (0x32c0, [0x31, 0x6708]), (0x32c1, [0x32, 0x6708]), (0x32c2, [0x33, 0x6708]),
  (0x32c3, [0x34, 0x6708]), (0x32c4, [0x35, 0x6708]), (0x32c5, [0x36, 0x6708]),
  (0x32c6, [0x37, 0x6708]), (0x32c7, [0x38, 0x6708]), (0x32c8, [0x39, 0x6708]),
  (0x32c9, [0x31, 0x30, 0x6708]), (0x32ca, [0x31, 0x31, 0x6708]), (0x32cb, [0x31, 0x32, 0x6708]),
  (0x32cc, [0x68, 0x67]), (0x32cd, [0x65, 0x72, 0x67]), (0x32ce, [0x65, 0x76]),
  (0x32cf, [0x6c, 0x74, 0x64]), (0x32ff, [0x4ee4, 0x548c])]

/-- Words in squares, hours and units. -/
def squaredWords : List (Nat × List Nat) := [
  (0x3300, [0x30a2, 0x30d1, 0x30fc, 0x30c8]), (0x3301, [0x30a2, 0x30eb, 0x30d5, 0x30a1]),
  (0x3302, [0x30a2, 0x30f3, 0x30da, 0x30a2]), (0x3303, [0x30a2, 0x30fc, 0x30eb]),
  (0x3304, [0x30a4, 0x30cb, 0x30f3, 0x30b0]), (0x3305, [0x30a4, 0x30f3, 0x30c1]),
  (0x3306, [0x30a6, 0x30a9, 0x30f3]), (0x3307, [0x30a8, 0x30b9, 0x30af, 0x30fc, 0x30c9]),
  (0x3308, [0x30a8, 0x30fc, 0x30ab, 0x30fc]), (0x3309, [0x30aa, 0x30f3, 0x30b9]),
  (0x330a, [0x30aa, 0x30fc, 0x30e0]), (0x330b, [0x30ab, 0x30a4, 0x30ea]),
  (0x330c, [0x30ab, 0x30e9, 0x30c3, 0x30c8]), (0x330d, [0x30ab, 0x30ed, 0x30ea, 0x30fc]),
  (0x330e, [0x30ac, 0x30ed, 0x30f3]), (0x330f, [0x30ac, 0x30f3, 0x30de]),
  (0x3310, [0x30ae, 0x30ac]), (0x3311, [0x30ae, 0x30cb, 0x30fc]),
  (0x3312, [0x30ad, 0x30e5, 0x30ea, 0x30fc]), (0x3313, [0x30ae, 0x30eb, 0x30c0, 0x30fc]),
  (0x3314, [0x30ad, 0x30ed]), (0x3315, [0x30ad, 0x30ed, 0x30b0, 0x30e9, 0x30e0]),
  (0x3316, [0x30ad, 0x30ed, 0x30e1, 0x30fc, 0x30c8, 0x30eb]),
  (0x3317, [0x30ad, 0x30ed, 0x30ef, 0x30c3, 0x30c8]), (0x3318, [0x30b0, 0x30e9, 0x30e0]),
  (0x3319, [0x30b0, 0x30e9, 0x30e0, 0x30c8, 0x30f3]),
  (0x331a, [0x30af, 0x30eb, 0x30bc, 0x30a4, 0x30ed]), (0x331b, [0x30af, 0x30ed, 0x30fc, 0x30cd]),
  (0x331c, [0x30b1, 0x30fc, 0x30b9]), (0x331d, [0x30b3, 0x30eb, 0x30ca]),
  (0x331e, [0x30b3, 0x30fc, 0x30dd]), (0x331f, [0x30b5, 0x30a4, 0x30af, 0x30eb]),
  (0x3320, [0x30b5, 0x30f3, 0x30c1, 0x30fc, 0x30e0]), (0x3321, [0x30b7, 0x30ea, 0x30f3, 0x30b0]),
  (0x3322, [0x30bb, 0x30f3, 0x30c1]), (0x3323, [0x30bb, 0x30f3, 0x30c8]),
  (0x3324, [0x30c0, 0x30fc, 0x30b9]), (0x3325, [0x30c7, 0x30b7]), (0x3326, [0x30c9, 0x30eb]),
  (0x3327, [0x30c8, 0x30f3]), (0x3328, [0x30ca, 0x30ce]), (0x3329, [0x30ce, 0x30c3, 0x30c8]),
  (0x332a, [0x30cf, 0x30a4, 0x30c4]), (0x332b, [0x30d1, 0x30fc, 0x30bb, 0x30f3, 0x30c8]),
  (0x332c, [0x30d1, 0x30fc, 0x30c4]), (0x332d, [0x30d0, 0x30fc, 0x30ec, 0x30eb]),
  (0x332e, [0x30d4, 0x30a2, 0x30b9, 0x30c8, 0x30eb]), (0x332f, [0x30d4, 0x30af, 0x30eb]),
  (0x3330, [0x30d4, 0x30b3]), (0x3331, [0x30d3, 0x30eb]),
  (0x3332, [0x30d5, 0x30a1, 0x30e9, 0x30c3, 0x30c9]), (0x3333, [0x30d5, 0x30a3, 0x30fc, 0x30c8]),
  (0x3334, [0x30d6, 0x30c3, 0x30b7, 0x30a7, 0x30eb]), (0x3335, [0x30d5, 0x30e9, 0x30f3]),
  (0x3336, [0x30d8, 0x30af, 0x30bf, 0x30fc, 0x30eb]), (0x3337, [0x30da, 0x30bd]),
  (0x3338, [0x30da, 0x30cb, 0x30d2]), (0x3339, [0x30d8, 0x30eb, 0x30c4]),
  (0x333a, [0x30da, 0x30f3, 0x30b9]), (0x333b, [0x30da, 0x30fc, 0x30b8]),
  (0x333c, [0x30d9, 0x30fc, 0x30bf]), (0x333d, [0x30dd, 0x30a4, 0x30f3, 0x30c8]),
  (0x333e, [0x30dc, 0x30eb, 0x30c8]), (0x333f, [0x30db, 0x30f3]),
  (0x3340, [0x30dd, 0x30f3, 0x30c9]), (0x3341, [0x30db, 0x30fc, 0x30eb]),
  (0x3342, [0x30db, 0x30fc, 0x30f3]), (0x3343, [0x30de, 0x30a4, 0x30af, 0x30ed]),
  (0x3344, [0x30de, 0x30a4, 0x30eb]), (0x3345, [0x30de, 0x30c3, 0x30cf]),
  (0x3346, [0x30de, 0x30eb, 0x30af]), (0x3347, [0x30de, 0x30f3, 0x30b7, 0x30e7, 0x30f3]),
  (0x3348, [0x30df, 0x30af, 0x30ed, 0x30f3]), (0x3349, [0x30df, 0x30ea]),
  (0x334a, [0x30df, 0x30ea, 0x30d0, 0x30fc, 0x30eb]), (0x334b, [0x30e1, 0x30ac]),
  (0x334c, [0x30e1, 0x30ac, 0x30c8, 0x30f3]), (0x334d, [0x30e1, 0x30fc, 0x30c8, 0x30eb]),
  (0x334e, [0x30e4, 0x30fc, 0x30c9]), (0x334f, [0x30e4, 0x30fc, 0x30eb]),
  (0x3350, [0x30e6, 0x30a2, 0x30f3]), (0x3351, [0x30ea, 0x30c3, 0x30c8, 0x30eb]),
  (0x3352, [0x30ea, 0x30e9]), (0x3353, [0x30eb, 0x30d4, 0x30fc]),
  (0x3354, [0x30eb, 0x30fc, 0x30d6, 0x30eb]), (0x3355, [0x30ec, 0x30e0]),
  (0x3356, [0x30ec, 0x30f3, 0x30c8, 0x30b2, 0x30f3]), (0x3357, [0x30ef, 0x30c3, 0x30c8]),
  (0x3358, [0x30, 0x70b9]), (0x3359, [0x31, 0x70b9]), (0x335a, [0x32, 0x70b9]),
  (0x335b, [0x33, 0x70b9]), (0x335c, [0x34, 0x70b9]), (0x335d, [0x35, 0x70b9]),
  (0x335e, [0x36, 0x70b9]), (0x335f, [0x37, 0x70b9]), (0x3360, [0x38, 0x70b9]),
  (0x3361, [0x39, 0x70b9]), (0x3362, [0x31, 0x30, 0x70b9]), (0x3363, [0x31, 0x31, 0x70b9]),
  (0x3364, [0x31, 0x32, 0x70b9]), (0x3365, [0x31, 0x33, 0x70b9]), (0x3366, [0x31, 0x34, 0x70b9]),
  (0x3367, [0x31, 0x35, 0x70b9]), (0x3368, [0x31, 0x36, 0x70b9]), (0x3369, [0x31, 0x37, 0x70b9]),
  (0x336a, [0x31, 0x38, 0x70b9]), (0x336b, [0x31, 0x39, 0x70b9]), (0x336c, [0x32, 0x30, 0x70b9]),
  (0x336d, [0x32, 0x31, 0x70b9]), (0x336e, [0x32, 0x32, 0x70b9]), (0x336f, [0x32, 0x33, 0x70b9]),
  (0x3370, [0x32, 0x34, 0x70b9]), (0x3371, [0x68, 0x70, 0x61]), (0x3372, [0x64, 0x61]),
  (0x3373, [0x61, 0x75]), (0x3374, [0x62, 0x61, 0x72]), (0x3375, [0x6f, 0x76]),
  (0x3376, [0x70, 0x63]), (0x3377, [0x64, 0x6d]), (0x3378, [0x64, 0x6d, 0x32]),
  (0x3379, [0x64, 0x6d, 0x33]), (0x337a, [0x69, 0x75]), (0x337b, [0x5e73, 0x6210]),
  (0x337c, [0x662d, 0x548c]), (0x337d, [0x5927, 0x6b63]), (0x337e, [0x660e, 0x6cbb]),
  (0x337f, [0x682a, 0x5f0f, 0x4f1a, 0x793e]), (0x3380, [0x70, 0x61]), (0x3381, [0x6e, 0x61]),
  (0x3382, [0x3bc, 0x61]), (0x3383, [0x6d, 0x61]), (0x3384, [0x6b, 0x61]), (0x3385, [0x6b, 0x62]),
  (0x3386, [0x6d, 0x62]), (0x3387, [0x67, 0x62]), (0x3388, [0x63, 0x61, 0x6c]),
  (0x3389, [0x6b, 0x63, 0x61, 0x6c]), (0x338a, [0x70, 0x66]), (0x338b, [0x6e, 0x66]),
  (0x338c, [0x3bc, 0x66]), (0x338d, [0x3bc, 0x67]), (0x338e, [0x6d, 0x67]),
  (0x338f, [0x6b, 0x67]), (0x3390, [0x68, 0x7a]), (0x3391, [0x6b, 0x68, 0x7a]),
  (0x3392, [0x6d, 0x68, 0x7a]), (0x3393, [0x67, 0x68, 0x7a]), (0x3394, [0x74, 0x68, 0x7a]),
  (0x3395, [0x3bc, 0x6c]), (0x3396, [0x6d, 0x6c]), (0x3397, [0x64, 0x6c]), (0x3398, [0x6b, 0x6c]),
  (0x3399, [0x66, 0x6d]), (0x339a, [0x6e, 0x6d]), (0x339b, [0x3bc, 0x6d]), (0x339c, [0x6d, 0x6d]),
  (0x339d, [0x63, 0x6d]), (0x339e, [0x6b, 0x6d]), (0x339f, [0x6d, 0x6d, 0x32]),
  (0x33a0, [0x63, 0x6d, 0x32]), (0x33a1, [0x6d, 0x32]), (0x33a2, [0x6b, 0x6d, 0x32]),
  (0x33a3, [0x6d, 0x6d, 0x33]), (0x33a4, [0x63, 0x6d, 0x33]), (0x33a5, [0x6d, 0x33]),
  (0x33a6, [0x6b, 0x6d, 0x33]), (0x33a7, [0x6d, 0x2215, 0x73]),
  (0x33a8, [0x6d, 0x2215, 0x73, 0x32]), (0x33a9, [0x70, 0x61]), (0x33aa, [0x6b, 0x70, 0x61]),
  (0x33ab, [0x6d, 0x70, 0x61]), (0x33ac, [0x67, 0x70, 0x61]), (0x33ad, [0x72, 0x61, 0x64]),
  (0x33ae, [0x72, 0x61, 0x64, 0x2215, 0x73]), (0x33af, [0x72, 0x61, 0x64, 0x2215, 0x73, 0x32]),
  (0x33b0, [0x70, 0x73]), (0x33b1, [0x6e, 0x73]), (0x33b2, [0x3bc, 0x73]), (0x33b3, [0x6d, 0x73]),
  (0x33b4, [0x70, 0x76]), (0x33b5, [0x6e, 0x76]), (0x33b6, [0x3bc, 0x76]), (0x33b7, [0x6d, 0x76]),
  (0x33b8, [0x6b, 0x76]), (0x33b9, [0x6d, 0x76]), (0x33ba, [0x70, 0x77]), (0x33bb, [0x6e, 0x77]),
  (0x33bc, [0x3bc, 0x77]), (0x33bd, [0x6d, 0x77]), (0x33be, [0x6b, 0x77]), (0x33bf, [0x6d, 0x77]),
  (0x33c0, [0x6b, 0x3c9]), (0x33c1, [0x6d, 0x3c9]), (0x33c3, [0x62, 0x71]),
  (0x33c4, [0x63, 0x63]), (0x33c5, [0x63, 0x64]), (0x33c6, [0x63, 0x2215, 0x6b, 0x67]),
  (0x33c8, [0x64, 0x62]), (0x33c9, [0x67, 0x79]), (0x33ca, [0x68, 0x61]), (0x33cb, [0x68, 0x70]),
  (0x33cc, [0x69, 0x6e]), (0x33cd, [0x6b, 0x6b]), (0x33ce, [0x6b, 0x6d]), (0x33cf, [0x6b, 0x74]),
  (0x33d0, [0x6c, 0x6d]), (0x33d1, [0x6c, 0x6e]), (0x33d2, [0x6c, 0x6f, 0x67]),
  (0x33d3, [0x6c, 0x78]), (0x33d4, [0x6d, 0x62]), (0x33d5, [0x6d, 0x69, 0x6c]),
  (0x33d6, [0x6d, 0x6f, 0x6c]), (0x33d7, [0x70, 0x68]), (0x33d9, [0x70, 0x70, 0x6d]),
  (0x33da, [0x70, 0x72]), (0x33db, [0x73, 0x72]), (0x33dc, [0x73, 0x76]), (0x33dd, [0x77, 0x62]),
  (0x33de, [0x76, 0x2215, 0x6d]), (0x33df, [0x61, 0x2215, 0x6d]), (0x33e0, [0x31, 0x65e5]),
  (0x33e1, [0x32, 0x65e5]), (0x33e2, [0x33, 0x65e5]), (0x33e3, [0x34, 0x65e5]),
  (0x33e4, [0x35, 0x65e5]), (0x33e5, [0x36, 0x65e5]), (0x33e6, [0x37, 0x65e5]),
  (0x33e7, [0x38, 0x65e5]), (0x33e8, [0x39, 0x65e5]), (0x33e9, [0x31, 0x30, 0x65e5]),
  (0x33ea, [0x31, 0x31, 0x65e5]), (0x33eb, [0x31, 0x32, 0x65e5]), (0x33ec, [0x31, 0x33, 0x65e5]),
  (0x33ed, [0x31, 0x34, 0x65e5]), (0x33ee, [0x31, 0x35, 0x65e5]), (0x33ef, [0x31, 0x36, 0x65e5]),
  (0x33f0, [0x31, 0x37, 0x65e5]), (0x33f1, [0x31, 0x38, 0x65e5]), (0x33f2, [0x31, 0x39, 0x65e5]),
  (0x33f3, [0x32, 0x30, 0x65e5]), (0x33f4, [0x32, 0x31, 0x65e5]), (0x33f5, [0x32, 0x32, 0x65e5]),
  (0x33f6, [0x32, 0x33, 0x65e5]), (0x33f7, [0x32, 0x34, 0x65e5]), (0x33f8, [0x32, 0x35, 0x65e5]),
  (0x33f9, [0x32, 0x36, 0x65e5]), (0x33fa, [0x32, 0x37, 0x65e5]), (0x33fb, [0x32, 0x38, 0x65e5]),
  (0x33fc, [0x32, 0x39, 0x65e5]), (0x33fd, [0x33, 0x30, 0x65e5]), (0x33fe, [0x33, 0x31, 0x65e5]),
  (0x33ff, [0x67, 0x61, 0x6c])]

/-- Ligatures of rare letters, and letters with points. -/
def rareLigatures : List (Nat × List Nat) := [
  (0xfb00, [0x66, 0x66]), (0xfb01, [0x66, 0x69]), (0xfb02, [0x66, 0x6c]),
  (0xfb03, [0x66, 0x66, 0x69]), (0xfb04, [0x66, 0x66, 0x6c]), (0xfb05, [0x73, 0x74]),
  (0xfb06, [0x73, 0x74]), (0xfb13, [0x574, 0x576]), (0xfb14, [0x574, 0x565]),
  (0xfb15, [0x574, 0x56b]), (0xfb16, [0x57e, 0x576]), (0xfb17, [0x574, 0x56d]),
  (0xfb1d, [0x5d9, 0x5b4]), (0xfb1f, [0x5f2, 0x5b7]), (0xfb2a, [0x5e9, 0x5c1]),
  (0xfb2b, [0x5e9, 0x5c2]), (0xfb2c, [0x5e9, 0x5bc, 0x5c1]), (0xfb2d, [0x5e9, 0x5bc, 0x5c2]),
  (0xfb2e, [0x5d0, 0x5b7]), (0xfb2f, [0x5d0, 0x5b8]), (0xfb30, [0x5d0, 0x5bc]),
  (0xfb31, [0x5d1, 0x5bc]), (0xfb32, [0x5d2, 0x5bc]), (0xfb33, [0x5d3, 0x5bc]),
  (0xfb34, [0x5d4, 0x5bc]), (0xfb35, [0x5d5, 0x5bc]), (0xfb36, [0x5d6, 0x5bc]),
  (0xfb38, [0x5d8, 0x5bc]), (0xfb39, [0x5d9, 0x5bc]), (0xfb3a, [0x5da, 0x5bc]),
  (0xfb3b, [0x5db, 0x5bc]), (0xfb3c, [0x5dc, 0x5bc]), (0xfb3e, [0x5de, 0x5bc]),
  (0xfb40, [0x5e0, 0x5bc]), (0xfb41, [0x5e1, 0x5bc]), (0xfb43, [0x5e3, 0x5bc]),
  (0xfb44, [0x5e4, 0x5bc]), (0xfb46, [0x5e6, 0x5bc]), (0xfb47, [0x5e7, 0x5bc]),
  (0xfb48, [0x5e8, 0x5bc]), (0xfb49, [0x5e9, 0x5bc]), (0xfb4a, [0x5ea, 0x5bc]),
  (0xfb4b, [0x5d5, 0x5b9]), (0xfb4c, [0x5d1, 0x5bf]), (0xfb4d, [0x5db, 0x5bf]),
  (0xfb4e, [0x5e4, 0x5bf]), (0xfb4f, [0x5d0, 0x5dc])]

/-- Letters that are joined in pairs at the start of an Arabic word. -/
def joinedLetters : List (Nat × List Nat) := [
  (0xfbdd, [0x6c7, 0x674]), (0xfbea, [0x626, 0x627]), (0xfbeb, [0x626, 0x627]),
  (0xfbec, [0x626, 0x6d5]), (0xfbed, [0x626, 0x6d5]), (0xfbee, [0x626, 0x648]),
  (0xfbef, [0x626, 0x648]), (0xfbf0, [0x626, 0x6c7]), (0xfbf1, [0x626, 0x6c7]),
  (0xfbf2, [0x626, 0x6c6]), (0xfbf3, [0x626, 0x6c6]), (0xfbf4, [0x626, 0x6c8]),
  (0xfbf5, [0x626, 0x6c8]), (0xfbf6, [0x626, 0x6d0]), (0xfbf7, [0x626, 0x6d0]),
  (0xfbf8, [0x626, 0x6d0]), (0xfbf9, [0x626, 0x649]), (0xfbfa, [0x626, 0x649]),
  (0xfbfb, [0x626, 0x649]), (0xfc00, [0x626, 0x62c]), (0xfc01, [0x626, 0x62d]),
  (0xfc02, [0x626, 0x645]), (0xfc03, [0x626, 0x649]), (0xfc04, [0x626, 0x64a]),
  (0xfc05, [0x628, 0x62c]), (0xfc06, [0x628, 0x62d]), (0xfc07, [0x628, 0x62e]),
  (0xfc08, [0x628, 0x645]), (0xfc09, [0x628, 0x649]), (0xfc0a, [0x628, 0x64a]),
  (0xfc0b, [0x62a, 0x62c]), (0xfc0c, [0x62a, 0x62d]), (0xfc0d, [0x62a, 0x62e]),
  (0xfc0e, [0x62a, 0x645]), (0xfc0f, [0x62a, 0x649]), (0xfc10, [0x62a, 0x64a]),
  (0xfc11, [0x62b, 0x62c]), (0xfc12, [0x62b, 0x645]), (0xfc13, [0x62b, 0x649]),
  (0xfc14, [0x62b, 0x64a]), (0xfc15, [0x62c, 0x62d]), (0xfc16, [0x62c, 0x645]),
  (0xfc17, [0x62d, 0x62c]), (0xfc18, [0x62d, 0x645]), (0xfc19, [0x62e, 0x62c]),
  (0xfc1a, [0x62e, 0x62d]), (0xfc1b, [0x62e, 0x645]), (0xfc1c, [0x633, 0x62c]),
  (0xfc1d, [0x633, 0x62d]), (0xfc1e, [0x633, 0x62e]), (0xfc1f, [0x633, 0x645]),
  (0xfc20, [0x635, 0x62d]), (0xfc21, [0x635, 0x645]), (0xfc22, [0x636, 0x62c]),
  (0xfc23, [0x636, 0x62d]), (0xfc24, [0x636, 0x62e]), (0xfc25, [0x636, 0x645]),
  (0xfc26, [0x637, 0x62d]), (0xfc27, [0x637, 0x645]), (0xfc28, [0x638, 0x645]),
  (0xfc29, [0x639, 0x62c]), (0xfc2a, [0x639, 0x645]), (0xfc2b, [0x63a, 0x62c]),
  (0xfc2c, [0x63a, 0x645]), (0xfc2d, [0x641, 0x62c]), (0xfc2e, [0x641, 0x62d]),
  (0xfc2f, [0x641, 0x62e]), (0xfc30, [0x641, 0x645]), (0xfc31, [0x641, 0x649]),
  (0xfc32, [0x641, 0x64a]), (0xfc33, [0x642, 0x62d]), (0xfc34, [0x642, 0x645]),
  (0xfc35, [0x642, 0x649]), (0xfc36, [0x642, 0x64a]), (0xfc37, [0x643, 0x627]),
  (0xfc38, [0x643, 0x62c]), (0xfc39, [0x643, 0x62d]), (0xfc3a, [0x643, 0x62e]),
  (0xfc3b, [0x643, 0x644]), (0xfc3c, [0x643, 0x645]), (0xfc3d, [0x643, 0x649]),
  (0xfc3e, [0x643, 0x64a]), (0xfc3f, [0x644, 0x62c]), (0xfc40, [0x644, 0x62d]),
  (0xfc41, [0x644, 0x62e]), (0xfc42, [0x644, 0x645]), (0xfc43, [0x644, 0x649]),
  (0xfc44, [0x644, 0x64a]), (0xfc45, [0x645, 0x62c]), (0xfc46, [0x645, 0x62d]),
  (0xfc47, [0x645, 0x62e]), (0xfc48, [0x645, 0x645]), (0xfc49, [0x645, 0x649]),
  (0xfc4a, [0x645, 0x64a]), (0xfc4b, [0x646, 0x62c]), (0xfc4c, [0x646, 0x62d]),
  (0xfc4d, [0x646, 0x62e]), (0xfc4e, [0x646, 0x645]), (0xfc4f, [0x646, 0x649]),
  (0xfc50, [0x646, 0x64a]), (0xfc51, [0x647, 0x62c]), (0xfc52, [0x647, 0x645]),
  (0xfc53, [0x647, 0x649]), (0xfc54, [0x647, 0x64a]), (0xfc55, [0x64a, 0x62c]),
  (0xfc56, [0x64a, 0x62d]), (0xfc57, [0x64a, 0x62e]), (0xfc58, [0x64a, 0x645]),
  (0xfc59, [0x64a, 0x649]), (0xfc5a, [0x64a, 0x64a]), (0xfc5b, [0x630, 0x670]),
  (0xfc5c, [0x631, 0x670]), (0xfc5d, [0x649, 0x670]), (0xfc5e, [0x20, 0x64c, 0x651]),
  (0xfc5f, [0x20, 0x64d, 0x651]), (0xfc60, [0x20, 0x64e, 0x651]), (0xfc61, [0x20, 0x64f, 0x651]),
  (0xfc62, [0x20, 0x650, 0x651]), (0xfc63, [0x20, 0x651, 0x670])]

/-- Letters that are joined in pairs at the end of an Arabic word. -/
def endingLetters : List (Nat × List Nat) := [
  (0xfc64, [0x626, 0x631]), (0xfc65, [0x626, 0x632]), (0xfc66, [0x626, 0x645]),
  (0xfc67, [0x626, 0x646]), (0xfc68, [0x626, 0x649]), (0xfc69, [0x626, 0x64a]),
  (0xfc6a, [0x628, 0x631]), (0xfc6b, [0x628, 0x632]), (0xfc6c, [0x628, 0x645]),
  (0xfc6d, [0x628, 0x646]), (0xfc6e, [0x628, 0x649]), (0xfc6f, [0x628, 0x64a]),
  (0xfc70, [0x62a, 0x631]), (0xfc71, [0x62a, 0x632]), (0xfc72, [0x62a, 0x645]),
  (0xfc73, [0x62a, 0x646]), (0xfc74, [0x62a, 0x649]), (0xfc75, [0x62a, 0x64a]),
  (0xfc76, [0x62b, 0x631]), (0xfc77, [0x62b, 0x632]), (0xfc78, [0x62b, 0x645]),
  (0xfc79, [0x62b, 0x646]), (0xfc7a, [0x62b, 0x649]), (0xfc7b, [0x62b, 0x64a]),
  (0xfc7c, [0x641, 0x649]), (0xfc7d, [0x641, 0x64a]), (0xfc7e, [0x642, 0x649]),
  (0xfc7f, [0x642, 0x64a]), (0xfc80, [0x643, 0x627]), (0xfc81, [0x643, 0x644]),
  (0xfc82, [0x643, 0x645]), (0xfc83, [0x643, 0x649]), (0xfc84, [0x643, 0x64a]),
  (0xfc85, [0x644, 0x645]), (0xfc86, [0x644, 0x649]), (0xfc87, [0x644, 0x64a]),
  (0xfc88, [0x645, 0x627]), (0xfc89, [0x645, 0x645]), (0xfc8a, [0x646, 0x631]),
  (0xfc8b, [0x646, 0x632]), (0xfc8c, [0x646, 0x645]), (0xfc8d, [0x646, 0x646]),
  (0xfc8e, [0x646, 0x649]), (0xfc8f, [0x646, 0x64a]), (0xfc90, [0x649, 0x670]),
  (0xfc91, [0x64a, 0x631]), (0xfc92, [0x64a, 0x632]), (0xfc93, [0x64a, 0x645]),
  (0xfc94, [0x64a, 0x646]), (0xfc95, [0x64a, 0x649]), (0xfc96, [0x64a, 0x64a]),
  (0xfc97, [0x626, 0x62c]), (0xfc98, [0x626, 0x62d]), (0xfc99, [0x626, 0x62e]),
  (0xfc9a, [0x626, 0x645]), (0xfc9b, [0x626, 0x647]), (0xfc9c, [0x628, 0x62c]),
  (0xfc9d, [0x628, 0x62d]), (0xfc9e, [0x628, 0x62e]), (0xfc9f, [0x628, 0x645]),
  (0xfca0, [0x628, 0x647]), (0xfca1, [0x62a, 0x62c]), (0xfca2, [0x62a, 0x62d]),
  (0xfca3, [0x62a, 0x62e]), (0xfca4, [0x62a, 0x645]), (0xfca5, [0x62a, 0x647]),
  (0xfca6, [0x62b, 0x645]), (0xfca7, [0x62c, 0x62d]), (0xfca8, [0x62c, 0x645]),
  (0xfca9, [0x62d, 0x62c]), (0xfcaa, [0x62d, 0x645]), (0xfcab, [0x62e, 0x62c]),
  (0xfcac, [0x62e, 0x645]), (0xfcad, [0x633, 0x62c]), (0xfcae, [0x633, 0x62d]),
  (0xfcaf, [0x633, 0x62e]), (0xfcb0, [0x633, 0x645]), (0xfcb1, [0x635, 0x62d]),
  (0xfcb2, [0x635, 0x62e]), (0xfcb3, [0x635, 0x645]), (0xfcb4, [0x636, 0x62c]),
  (0xfcb5, [0x636, 0x62d]), (0xfcb6, [0x636, 0x62e]), (0xfcb7, [0x636, 0x645]),
  (0xfcb8, [0x637, 0x62d]), (0xfcb9, [0x638, 0x645]), (0xfcba, [0x639, 0x62c]),
  (0xfcbb, [0x639, 0x645]), (0xfcbc, [0x63a, 0x62c]), (0xfcbd, [0x63a, 0x645]),
  (0xfcbe, [0x641, 0x62c]), (0xfcbf, [0x641, 0x62d]), (0xfcc0, [0x641, 0x62e]),
  (0xfcc1, [0x641, 0x645]), (0xfcc2, [0x642, 0x62d]), (0xfcc3, [0x642, 0x645]),
  (0xfcc4, [0x643, 0x62c]), (0xfcc5, [0x643, 0x62d]), (0xfcc6, [0x643, 0x62e]),
  (0xfcc7, [0x643, 0x644]), (0xfcc8, [0x643, 0x645]), (0xfcc9, [0x644, 0x62c]),
  (0xfcca, [0x644, 0x62d]), (0xfccb, [0x644, 0x62e]), (0xfccc, [0x644, 0x645]),
  (0xfccd, [0x644, 0x647]), (0xfcce, [0x645, 0x62c]), (0xfccf, [0x645, 0x62d]),
  (0xfcd0, [0x645, 0x62e]), (0xfcd1, [0x645, 0x645]), (0xfcd2, [0x646, 0x62c]),
  (0xfcd3, [0x646, 0x62d]), (0xfcd4, [0x646, 0x62e]), (0xfcd5, [0x646, 0x645]),
  (0xfcd6, [0x646, 0x647]), (0xfcd7, [0x647, 0x62c]), (0xfcd8, [0x647, 0x645]),
  (0xfcd9, [0x647, 0x670]), (0xfcda, [0x64a, 0x62c]), (0xfcdb, [0x64a, 0x62d]),
  (0xfcdc, [0x64a, 0x62e]), (0xfcdd, [0x64a, 0x645]), (0xfcde, [0x64a, 0x647]),
  (0xfcdf, [0x626, 0x645]), (0xfce0, [0x626, 0x647]), (0xfce1, [0x628, 0x645]),
  (0xfce2, [0x628, 0x647]), (0xfce3, [0x62a, 0x645]), (0xfce4, [0x62a, 0x647]),
  (0xfce5, [0x62b, 0x645]), (0xfce6, [0x62b, 0x647]), (0xfce7, [0x633, 0x645]),
  (0xfce8, [0x633, 0x647]), (0xfce9, [0x634, 0x645]), (0xfcea, [0x634, 0x647]),
  (0xfceb, [0x643, 0x644]), (0xfcec, [0x643, 0x645]), (0xfced, [0x644, 0x645]),
  (0xfcee, [0x646, 0x645]), (0xfcef, [0x646, 0x647]), (0xfcf0, [0x64a, 0x645]),
  (0xfcf1, [0x64a, 0x647]), (0xfcf2, [0x640, 0x64e, 0x651]), (0xfcf3, [0x640, 0x64f, 0x651]),
  (0xfcf4, [0x640, 0x650, 0x651]), (0xfcf5, [0x637, 0x649]), (0xfcf6, [0x637, 0x64a]),
  (0xfcf7, [0x639, 0x649]), (0xfcf8, [0x639, 0x64a]), (0xfcf9, [0x63a, 0x649]),
  (0xfcfa, [0x63a, 0x64a]), (0xfcfb, [0x633, 0x649]), (0xfcfc, [0x633, 0x64a]),
  (0xfcfd, [0x634, 0x649]), (0xfcfe, [0x634, 0x64a]), (0xfcff, [0x62d, 0x649])]

/-- Joined letters in threes, and joined words. -/
def joinedWords : List (Nat × List Nat) := [
  (0xfd00, [0x62d, 0x64a]), (0xfd01, [0x62c, 0x649]), (0xfd02, [0x62c, 0x64a]),
  (0xfd03, [0x62e, 0x649]), (0xfd04, [0x62e, 0x64a]), (0xfd05, [0x635, 0x649]),
  (0xfd06, [0x635, 0x64a]), (0xfd07, [0x636, 0x649]), (0xfd08, [0x636, 0x64a]),
  (0xfd09, [0x634, 0x62c]), (0xfd0a, [0x634, 0x62d]), (0xfd0b, [0x634, 0x62e]),
  (0xfd0c, [0x634, 0x645]), (0xfd0d, [0x634, 0x631]), (0xfd0e, [0x633, 0x631]),
  (0xfd0f, [0x635, 0x631]), (0xfd10, [0x636, 0x631]), (0xfd11, [0x637, 0x649]),
  (0xfd12, [0x637, 0x64a]), (0xfd13, [0x639, 0x649]), (0xfd14, [0x639, 0x64a]),
  (0xfd15, [0x63a, 0x649]), (0xfd16, [0x63a, 0x64a]), (0xfd17, [0x633, 0x649]),
  (0xfd18, [0x633, 0x64a]), (0xfd19, [0x634, 0x649]), (0xfd1a, [0x634, 0x64a]),
  (0xfd1b, [0x62d, 0x649]), (0xfd1c, [0x62d, 0x64a]), (0xfd1d, [0x62c, 0x649]),
  (0xfd1e, [0x62c, 0x64a]), (0xfd1f, [0x62e, 0x649]), (0xfd20, [0x62e, 0x64a]),
  (0xfd21, [0x635, 0x649]), (0xfd22, [0x635, 0x64a]), (0xfd23, [0x636, 0x649]),
  (0xfd24, [0x636, 0x64a]), (0xfd25, [0x634, 0x62c]), (0xfd26, [0x634, 0x62d]),
  (0xfd27, [0x634, 0x62e]), (0xfd28, [0x634, 0x645]), (0xfd29, [0x634, 0x631]),
  (0xfd2a, [0x633, 0x631]), (0xfd2b, [0x635, 0x631]), (0xfd2c, [0x636, 0x631]),
  (0xfd2d, [0x634, 0x62c]), (0xfd2e, [0x634, 0x62d]), (0xfd2f, [0x634, 0x62e]),
  (0xfd30, [0x634, 0x645]), (0xfd31, [0x633, 0x647]), (0xfd32, [0x634, 0x647]),
  (0xfd33, [0x637, 0x645]), (0xfd34, [0x633, 0x62c]), (0xfd35, [0x633, 0x62d]),
  (0xfd36, [0x633, 0x62e]), (0xfd37, [0x634, 0x62c]), (0xfd38, [0x634, 0x62d]),
  (0xfd39, [0x634, 0x62e]), (0xfd3a, [0x637, 0x645]), (0xfd3b, [0x638, 0x645]),
  (0xfd3c, [0x627, 0x64b]), (0xfd3d, [0x627, 0x64b]), (0xfd50, [0x62a, 0x62c, 0x645]),
  (0xfd51, [0x62a, 0x62d, 0x62c]), (0xfd52, [0x62a, 0x62d, 0x62c]),
  (0xfd53, [0x62a, 0x62d, 0x645]), (0xfd54, [0x62a, 0x62e, 0x645]),
  (0xfd55, [0x62a, 0x645, 0x62c]), (0xfd56, [0x62a, 0x645, 0x62d]),
  (0xfd57, [0x62a, 0x645, 0x62e]), (0xfd58, [0x62c, 0x645, 0x62d]),
  (0xfd59, [0x62c, 0x645, 0x62d]), (0xfd5a, [0x62d, 0x645, 0x64a]),
  (0xfd5b, [0x62d, 0x645, 0x649]), (0xfd5c, [0x633, 0x62d, 0x62c]),
  (0xfd5d, [0x633, 0x62c, 0x62d]), (0xfd5e, [0x633, 0x62c, 0x649]),
  (0xfd5f, [0x633, 0x645, 0x62d]), (0xfd60, [0x633, 0x645, 0x62d]),
  (0xfd61, [0x633, 0x645, 0x62c]), (0xfd62, [0x633, 0x645, 0x645]),
  (0xfd63, [0x633, 0x645, 0x645]), (0xfd64, [0x635, 0x62d, 0x62d]),
  (0xfd65, [0x635, 0x62d, 0x62d]), (0xfd66, [0x635, 0x645, 0x645]),
  (0xfd67, [0x634, 0x62d, 0x645]), (0xfd68, [0x634, 0x62d, 0x645]),
  (0xfd69, [0x634, 0x62c, 0x64a]), (0xfd6a, [0x634, 0x645, 0x62e]),
  (0xfd6b, [0x634, 0x645, 0x62e]), (0xfd6c, [0x634, 0x645, 0x645]),
  (0xfd6d, [0x634, 0x645, 0x645]), (0xfd6e, [0x636, 0x62d, 0x649]),
  (0xfd6f, [0x636, 0x62e, 0x645]), (0xfd70, [0x636, 0x62e, 0x645]),
  (0xfd71, [0x637, 0x645, 0x62d]), (0xfd72, [0x637, 0x645, 0x62d]),
  (0xfd73, [0x637, 0x645, 0x645]), (0xfd74, [0x637, 0x645, 0x64a]),
  (0xfd75, [0x639, 0x62c, 0x645]), (0xfd76, [0x639, 0x645, 0x645]),
  (0xfd77, [0x639, 0x645, 0x645]), (0xfd78, [0x639, 0x645, 0x649]),
  (0xfd79, [0x63a, 0x645, 0x645]), (0xfd7a, [0x63a, 0x645, 0x64a]),
  (0xfd7b, [0x63a, 0x645, 0x649]), (0xfd7c, [0x641, 0x62e, 0x645]),
  (0xfd7d, [0x641, 0x62e, 0x645]), (0xfd7e, [0x642, 0x645, 0x62d]),
  (0xfd7f, [0x642, 0x645, 0x645]), (0xfd80, [0x644, 0x62d, 0x645]),
  (0xfd81, [0x644, 0x62d, 0x64a]), (0xfd82, [0x644, 0x62d, 0x649]),
  (0xfd83, [0x644, 0x62c, 0x62c]), (0xfd84, [0x644, 0x62c, 0x62c]),
  (0xfd85, [0x644, 0x62e, 0x645]), (0xfd86, [0x644, 0x62e, 0x645]),
  (0xfd87, [0x644, 0x645, 0x62d]), (0xfd88, [0x644, 0x645, 0x62d]),
  (0xfd89, [0x645, 0x62d, 0x62c]), (0xfd8a, [0x645, 0x62d, 0x645]),
  (0xfd8b, [0x645, 0x62d, 0x64a]), (0xfd8c, [0x645, 0x62c, 0x62d]),
  (0xfd8d, [0x645, 0x62c, 0x645]), (0xfd8e, [0x645, 0x62e, 0x62c]),
  (0xfd8f, [0x645, 0x62e, 0x645]), (0xfd92, [0x645, 0x62c, 0x62e]),
  (0xfd93, [0x647, 0x645, 0x62c]), (0xfd94, [0x647, 0x645, 0x645]),
  (0xfd95, [0x646, 0x62d, 0x645]), (0xfd96, [0x646, 0x62d, 0x649]),
  (0xfd97, [0x646, 0x62c, 0x645]), (0xfd98, [0x646, 0x62c, 0x645]),
  (0xfd99, [0x646, 0x62c, 0x649]), (0xfd9a, [0x646, 0x645, 0x64a]),
  (0xfd9b, [0x646, 0x645, 0x649]), (0xfd9c, [0x64a, 0x645, 0x645]),
  (0xfd9d, [0x64a, 0x645, 0x645]), (0xfd9e, [0x628, 0x62e, 0x64a]),
  (0xfd9f, [0x62a, 0x62c, 0x64a]), (0xfda0, [0x62a, 0x62c, 0x649]),
  (0xfda1, [0x62a, 0x62e, 0x64a]), (0xfda2, [0x62a, 0x62e, 0x649]),
  (0xfda3, [0x62a, 0x645, 0x64a]), (0xfda4, [0x62a, 0x645, 0x649]),
  (0xfda5, [0x62c, 0x645, 0x64a]), (0xfda6, [0x62c, 0x62d, 0x649]),
  (0xfda7, [0x62c, 0x645, 0x649]), (0xfda8, [0x633, 0x62e, 0x649]),
  (0xfda9, [0x635, 0x62d, 0x64a]), (0xfdaa, [0x634, 0x62d, 0x64a]),
  (0xfdab, [0x636, 0x62d, 0x64a]), (0xfdac, [0x644, 0x62c, 0x64a]),
  (0xfdad, [0x644, 0x645, 0x64a]), (0xfdae, [0x64a, 0x62d, 0x64a]),
  (0xfdaf, [0x64a, 0x62c, 0x64a]), (0xfdb0, [0x64a, 0x645, 0x64a]),
  (0xfdb1, [0x645, 0x645, 0x64a]), (0xfdb2, [0x642, 0x645, 0x64a]),
  (0xfdb3, [0x646, 0x62d, 0x64a]), (0xfdb4, [0x642, 0x645, 0x62d]),
  (0xfdb5, [0x644, 0x62d, 0x645]), (0xfdb6, [0x639, 0x645, 0x64a]),
  (0xfdb7, [0x643, 0x645, 0x64a]), (0xfdb8, [0x646, 0x62c, 0x62d]),
  (0xfdb9, [0x645, 0x62e, 0x64a]), (0xfdba, [0x644, 0x62c, 0x645]),
  (0xfdbb, [0x643, 0x645, 0x645]), (0xfdbc, [0x644, 0x62c, 0x645]),
  (0xfdbd, [0x646, 0x62c, 0x62d]), (0xfdbe, [0x62c, 0x62d, 0x64a]),
  (0xfdbf, [0x62d, 0x62c, 0x64a]), (0xfdc0, [0x645, 0x62c, 0x64a]),
  (0xfdc1, [0x641, 0x645, 0x64a]), (0xfdc2, [0x628, 0x62d, 0x64a]),
  (0xfdc3, [0x643, 0x645, 0x645]), (0xfdc4, [0x639, 0x62c, 0x645]),
  (0xfdc5, [0x635, 0x645, 0x645]), (0xfdc6, [0x633, 0x62e, 0x64a]),
  (0xfdc7, [0x646, 0x62c, 0x64a]), (0xfdf0, [0x635, 0x644, 0x6d2]),
  (0xfdf1, [0x642, 0x644, 0x6d2]), (0xfdf2, [0x627, 0x644, 0x644, 0x647]),
  (0xfdf3, [0x627, 0x643, 0x628, 0x631]), (0xfdf4, [0x645, 0x62d, 0x645, 0x62f]),
  (0xfdf5, [0x635, 0x644, 0x639, 0x645]), (0xfdf6, [0x631, 0x633, 0x648, 0x644]),
  (0xfdf7, [0x639, 0x644, 0x64a, 0x647]), (0xfdf8, [0x648, 0x633, 0x644, 0x645]),
  (0xfdf9, [0x635, 0x644, 0x649]),
  (0xfdfa, [0x635, 0x644, 0x649, 0x20, 0x627, 0x644, 0x644, 0x647, 0x20, 0x639, 0x644, 0x64a,
    0x647, 0x20, 0x648, 0x633, 0x644, 0x645]),
  (0xfdfb, [0x62c, 0x644, 0x20, 0x62c, 0x644, 0x627, 0x644, 0x647]),
  (0xfdfc, [0x631, 0x6cc, 0x627, 0x644])]

/-- Musical signs, and letters, numbers and words in parentheses and squares. -/
def decoratedNumbers : List (Nat × List Nat) := [
  (0xfe49, [0x20, 0x305]), (0xfe4a, [0x20, 0x305]), (0xfe4b, [0x20, 0x305]),
  (0xfe4c, [0x20, 0x305]), (0xfe70, [0x20, 0x64b]), (0xfe71, [0x640, 0x64b]),
  (0xfe72, [0x20, 0x64c]), (0xfe74, [0x20, 0x64d]), (0xfe76, [0x20, 0x64e]),
  (0xfe77, [0x640, 0x64e]), (0xfe78, [0x20, 0x64f]), (0xfe79, [0x640, 0x64f]),
  (0xfe7a, [0x20, 0x650]), (0xfe7b, [0x640, 0x650]), (0xfe7c, [0x20, 0x651]),
  (0xfe7d, [0x640, 0x651]), (0xfe7e, [0x20, 0x652]), (0xfe7f, [0x640, 0x652]),
  (0xfef5, [0x644, 0x622]), (0xfef6, [0x644, 0x622]), (0xfef7, [0x644, 0x623]),
  (0xfef8, [0x644, 0x623]), (0xfef9, [0x644, 0x625]), (0xfefa, [0x644, 0x625]),
  (0xfefb, [0x644, 0x627]), (0xfefc, [0x644, 0x627]), (0xffe3, [0x20, 0x304]),
  (0x1d15e, [0x1d157, 0x1d165]), (0x1d15f, [0x1d158, 0x1d165]),
  (0x1d160, [0x1d158, 0x1d165, 0x1d16e]), (0x1d161, [0x1d158, 0x1d165, 0x1d16f]),
  (0x1d162, [0x1d158, 0x1d165, 0x1d170]), (0x1d163, [0x1d158, 0x1d165, 0x1d171]),
  (0x1d164, [0x1d158, 0x1d165, 0x1d172]), (0x1d1bb, [0x1d1b9, 0x1d165]),
  (0x1d1bc, [0x1d1ba, 0x1d165]), (0x1d1bd, [0x1d1b9, 0x1d165, 0x1d16e]),
  (0x1d1be, [0x1d1ba, 0x1d165, 0x1d16e]), (0x1d1bf, [0x1d1b9, 0x1d165, 0x1d16f]),
  (0x1d1c0, [0x1d1ba, 0x1d165, 0x1d16f]), (0x1f101, [0x30, 0x2c]), (0x1f102, [0x31, 0x2c]),
  (0x1f103, [0x32, 0x2c]), (0x1f104, [0x33, 0x2c]), (0x1f105, [0x34, 0x2c]),
  (0x1f106, [0x35, 0x2c]), (0x1f107, [0x36, 0x2c]), (0x1f108, [0x37, 0x2c]),
  (0x1f109, [0x38, 0x2c]), (0x1f10a, [0x39, 0x2c]), (0x1f110, [0x28, 0x61, 0x29]),
  (0x1f111, [0x28, 0x62, 0x29]), (0x1f112, [0x28, 0x63, 0x29]), (0x1f113, [0x28, 0x64, 0x29]),
  (0x1f114, [0x28, 0x65, 0x29]), (0x1f115, [0x28, 0x66, 0x29]), (0x1f116, [0x28, 0x67, 0x29]),
  (0x1f117, [0x28, 0x68, 0x29]), (0x1f118, [0x28, 0x69, 0x29]), (0x1f119, [0x28, 0x6a, 0x29]),
  (0x1f11a, [0x28, 0x6b, 0x29]), (0x1f11b, [0x28, 0x6c, 0x29]), (0x1f11c, [0x28, 0x6d, 0x29]),
  (0x1f11d, [0x28, 0x6e, 0x29]), (0x1f11e, [0x28, 0x6f, 0x29]), (0x1f11f, [0x28, 0x70, 0x29]),
  (0x1f120, [0x28, 0x71, 0x29]), (0x1f121, [0x28, 0x72, 0x29]), (0x1f122, [0x28, 0x73, 0x29]),
  (0x1f123, [0x28, 0x74, 0x29]), (0x1f124, [0x28, 0x75, 0x29]), (0x1f125, [0x28, 0x76, 0x29]),
  (0x1f126, [0x28, 0x77, 0x29]), (0x1f127, [0x28, 0x78, 0x29]), (0x1f128, [0x28, 0x79, 0x29]),
  (0x1f129, [0x28, 0x7a, 0x29]), (0x1f12a, [0x3014, 0x73, 0x3015]), (0x1f12d, [0x63, 0x64]),
  (0x1f12e, [0x77, 0x7a]), (0x1f14a, [0x68, 0x76]), (0x1f14b, [0x6d, 0x76]),
  (0x1f14c, [0x73, 0x64]), (0x1f14d, [0x73, 0x73]), (0x1f14e, [0x70, 0x70, 0x76]),
  (0x1f14f, [0x77, 0x63]), (0x1f16a, [0x6d, 0x63]), (0x1f16b, [0x6d, 0x64]),
  (0x1f16c, [0x6d, 0x72]), (0x1f190, [0x64, 0x6a]), (0x1f200, [0x307b, 0x304b]),
  (0x1f201, [0x30b3, 0x30b3]), (0x1f240, [0x3014, 0x672c, 0x3015]),
  (0x1f241, [0x3014, 0x4e09, 0x3015]), (0x1f242, [0x3014, 0x4e8c, 0x3015]),
  (0x1f243, [0x3014, 0x5b89, 0x3015]), (0x1f244, [0x3014, 0x70b9, 0x3015]),
  (0x1f245, [0x3014, 0x6253, 0x3015]), (0x1f246, [0x3014, 0x76d7, 0x3015]),
  (0x1f247, [0x3014, 0x52dd, 0x3015]), (0x1f248, [0x3014, 0x6557, 0x3015])]

/-- Each character with what it stands for. -/
def ligatures : List (Nat × List Nat) :=
  letterLigatures ++ signs ++ circledWords ++ squaredWords ++ rareLigatures ++ joinedLetters ++
    endingLetters ++ joinedWords ++ decoratedNumbers

end FleetGate.Domain
